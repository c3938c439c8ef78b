/-
Ipmx.Rtp.BoundedState — what the depacketizer holds stays within its limits,
whatever it receives.

`Bounded` is the invariant. Each payload branch keeps it, damaged or not, and
under it no subtraction of the branch wraps, so the branch is its checked form
(`Rtp.CheckedPush`). `Bounded.call` puts them together for one call, and
`calls_bounded` for a sequence of calls.
-/
import Ipmx.Rtp.CheckedPush
import Ipmx.Rtp.NalTypes
import Ipmx.Rtp.PacketGrammarTheorems

namespace Ipmx.Rtp

open H264
open Ipmx.Lib

theorem some_bind {α β : Type} (a : α) (next : α → Option β) : (some a >>= next) = next a := rfl

namespace H264Depacketizer

/-- The NAL units that wait for their marker are counted and within the limits, and so is the one
that is open. -/
structure Bounded (d : H264Depacketizer) : Prop where
  bytes : d.accumulatedBytes = totalBytes d.nals
  limits : WithinLimits d.nals
  ne_nil : ∀ nal ∈ d.nals, nal ≠ []
  fragment : d.fragment.length ≤ kMaximumNalBytes
  opened : d.fragmented = true → d.fragment ≠ []

theorem Bounded.fresh {d : H264Depacketizer} (hbytes : d.accumulatedBytes = 0)
    (hnals : d.nals = []) (hfragment : d.fragment = []) (hclosed : d.fragmented = false) :
    Bounded d where
  bytes := by rw [hbytes, hnals, totalBytes_nil]
  limits := by
    rw [hnals]
    exact .nil
  ne_nil := by
    rw [hnals]
    exact fun nal hmem => nomatch hmem
  fragment := by
    rw [hfragment]
    exact Nat.zero_le _
  opened := by
    rw [hclosed]
    exact fun hopen => nomatch hopen

/-- Damage and the stream fields do not matter, nor which fragment within the limit is open. -/
theorem Bounded.refill {d d' : H264Depacketizer} (h : Bounded d)
    (hbytes : d'.accumulatedBytes = d.accumulatedBytes) (hnals : d'.nals = d.nals)
    (hfragment : d'.fragment.length ≤ kMaximumNalBytes)
    (hopened : d'.fragmented = true → d'.fragment ≠ []) : Bounded d' where
  bytes := by rw [hbytes, hnals, h.bytes]
  limits := hnals ▸ h.limits
  ne_nil := hnals ▸ h.ne_nil
  fragment := hfragment
  opened := hopened

theorem Bounded.same {d d' : H264Depacketizer} (h : Bounded d)
    (hbytes : d'.accumulatedBytes = d.accumulatedBytes) (hnals : d'.nals = d.nals)
    (hfragment : d'.fragment = d.fragment) (hfragmented : d'.fragmented = d.fragmented) :
    Bounded d' :=
  h.refill hbytes hnals (hfragment ▸ h.fragment) (hfragment ▸ hfragmented ▸ h.opened)

theorem Bounded.closed {d d' : H264Depacketizer} (h : Bounded d)
    (hbytes : d'.accumulatedBytes = d.accumulatedBytes) (hnals : d'.nals = d.nals)
    (hfragment : d'.fragment = []) (hclosed : d'.fragmented = false) : Bounded d' := by
  refine h.refill hbytes hnals ?_ ?_
  · rw [hfragment]
    exact Nat.zero_le _
  · rw [hclosed]
    exact fun hopen => nomatch hopen

/-- A unit that passes the checks is stored within the limits. -/
theorem Bounded.append {d : H264Depacketizer} (h : Bounded d) {nal : NalUnit} (hne : nal ≠ [])
    (hnal : nal.length ≤ kMaximumNalBytes)
    (hroom : ¬ (d.nals.length ≥ kMaximumNalsPerAccessUnit
      ∨ d.accumulatedBytes > Word64.sub kMaximumAccessUnitBytes nal.length)) :
    Bounded { d with
      nals := d.nals ++ [nal], accumulatedBytes := d.accumulatedBytes + nal.length } := by
  have hlimit : kMaximumNalBytes ≤ kMaximumAccessUnitBytes := by decide
  rw [exceeds_sub_iff (hnal.trans hlimit) (by decide), h.bytes, not_or, not_not] at hroom
  exact
    { bytes := by rw [h.bytes, totalBytes_append, totalBytes_cons, totalBytes_nil, Nat.add_zero]
      limits := (withinLimits_append_singleton h.limits hnal).mpr ⟨by omega, hroom.2⟩
      ne_nil := by
        intro x hx
        rcases List.mem_append.mp hx with hx | hx
        · exact h.ne_nil x hx
        · rw [List.mem_singleton.mp hx]
          exact hne
      fragment := h.fragment
      opened := h.opened }

theorem Bounded.beginPacket {d : H264Depacketizer} (h : Bounded d) (packet : ParsedRtpPacket) :
    Bounded (d.beginPacket packet) := by
  rcases d.inside_or_outside packet with ⟨hactive, htimestamp⟩ | hrestart
  · rw [beginPacket_follows packet hactive htimestamp]
    exact h.same rfl rfl rfl rfl
  · rw [beginPacket_restart packet hrestart]
    exact Bounded.fresh rfl rfl rfl rfl

theorem Bounded.abandonFragment {d : H264Depacketizer} (h : Bounded d) :
    Bounded d.abandonFragment := by
  unfold H264Depacketizer.abandonFragment
  split
  · exact h.closed rfl rfl rfl rfl
  · exact h

/-! ## Single NAL units -/

theorem Bounded.storeSingleNal {d : H264Depacketizer} (h : Bounded d) {payload : Bytes}
    (hne : payload ≠ []) : Bounded (d.storeSingleNal payload) := by
  have hclosed := h.abandonFragment
  unfold H264Depacketizer.storeSingleNal
  dsimp only
  split
  · exact hclosed.same rfl rfl rfl rfl
  · next hroom =>
    rw [not_or] at hroom
    exact hclosed.append hne (by omega) hroom.2

theorem storeSingleNalChecked_eq (d : H264Depacketizer) (payload : Bytes) :
    d.storeSingleNalChecked payload = some (d.storeSingleNal payload) := by
  have hlimit : kMaximumNalBytes ≤ kMaximumAccessUnitBytes := by decide
  unfold storeSingleNalChecked storeSingleNal
  dsimp only
  by_cases hlong : payload.length > kMaximumNalBytes
  · rw [if_pos (.inl hlong), if_pos (.inl hlong)]
  by_cases hfull : d.abandonFragment.nals.length ≥ kMaximumNalsPerAccessUnit
  · rw [if_pos (.inr hfull), if_pos (.inr (.inl hfull))]
  rw [if_neg (by omega), Word64.checkedSub_eq_sub (by omega) (by decide), some_bind]
  by_cases hroom : d.abandonFragment.accumulatedBytes
      > Word64.sub kMaximumAccessUnitBytes payload.length
  · rw [if_pos hroom, if_pos (.inr (.inr hroom))]
    rfl
  · rw [if_neg hroom, if_neg (by omega)]
    rfl

/-! ## Aggregation packets -/

theorem stapLength_le (high low : UInt8) :
    ((high.toUInt16 <<< 8) ||| low.toUInt16).toNat ≤ kMaximumNalBytes :=
  (Nat.le_of_lt (UInt16.toNat_lt _)).trans (by decide)

/-- The element loop stores what passes its checks, and stops at what does not. -/
theorem Bounded.storeStapElements {fuel : Nat} {d : H264Depacketizer} {bytes : Bytes}
    (h : Bounded d) : Bounded (storeStapElements fuel d bytes) := by
  induction fuel generalizing d bytes with
  | zero => exact h
  | succ fuel ih =>
    rcases bytes with _ | ⟨high, _ | ⟨low, rest⟩⟩
    · exact h
    · exact h.same rfl rfl rfl rfl
    · rw [H264Depacketizer.storeStapElements]
      have hlimit := stapLength_le high low
      dsimp only
      generalize ((high.toUInt16 <<< 8) ||| low.toUInt16).toNat = length at hlimit ⊢
      split
      · exact h.same rfl rfl rfl rfl
      · next hfits =>
        split
        · exact h.same rfl rfl rfl rfl
        · rw [not_or, not_or] at hfits
          have htake : (rest.take length).length = length :=
            List.length_take_of_le (Nat.not_lt.mp hfits.2.1)
          have hne : rest.take length ≠ [] :=
            List.ne_nil_of_length_pos (htake.symm ▸ Nat.pos_of_ne_zero hfits.1)
          have hstored := h.append hne (htake.le.trans hlimit) (htake.symm ▸ hfits.2.2)
          rw [htake] at hstored
          exact ih hstored

theorem Bounded.storeStapA {d : H264Depacketizer} (h : Bounded d) (payload : Bytes) :
    Bounded (d.storeStapA payload) := by
  have hclosed := h.abandonFragment
  unfold H264Depacketizer.storeStapA
  dsimp only
  split
  · exact Bounded.storeStapElements (hclosed.same rfl rfl rfl rfl)
  · exact Bounded.storeStapElements hclosed

/-- One round over offsets, on the bytes that are left. -/
theorem storeStapElementsChecked_round {payload rest : Bytes} {offset : Nat} {high low : UInt8}
    (hleft : payload.drop offset = high :: low :: rest) (d : H264Depacketizer) :
    storeStapElementsChecked payload d offset =
      let length := ((high.toUInt16 <<< 8) ||| low.toUInt16).toNat
      if length = 0 ∨ length > rest.length ∨ d.nals.length ≥ kMaximumNalsPerAccessUnit
          ∨ d.accumulatedBytes > Word64.sub kMaximumAccessUnitBytes length then
        some { d with damaged := true }
      else if rest.headD 0 &&& 0x1F = 0 ∨ rest.headD 0 &&& 0x1F ≥ 24 then
        some { d with damaged := true }
      else
        storeStapElementsChecked payload
          { d with
            nals := d.nals ++ [rest.take length]
            accumulatedBytes := d.accumulatedBytes + length }
          (offset + 2 + length) := by
  have hlength := congrArg List.length hleft
  rw [List.length_drop, List.length_cons, List.length_cons] at hlength
  have hsize : payload.length - (offset + 2) = rest.length := by omega
  have hget : ∀ k, payload[offset + k]? = (high :: low :: rest)[k]? := by
    intro k
    rw [← List.getElem?_drop, hleft]
  have hhigh : payload[offset]? = some high := hget 0
  have hlow : payload[offset + 1]? = some low := hget 1
  have hrest : payload.drop (offset + 2) = rest := by
    rw [← List.drop_drop, hleft]
    rfl
  have hlimit := stapLength_le high low
  have hlimits : kMaximumNalBytes ≤ kMaximumAccessUnitBytes := by decide
  rw [storeStapElementsChecked, if_pos (by omega), Word64.checkedSub_of_le (by omega), some_bind,
    if_neg (by omega), hhigh, some_bind, hlow, some_bind, Word64.checkedSub_of_le (by omega),
    some_bind, hsize, hrest]
  dsimp only
  generalize ((high.toUInt16 <<< 8) ||| low.toUInt16).toNat = length at hlimit ⊢
  by_cases hcut : length = 0 ∨ length > rest.length ∨ d.nals.length ≥ kMaximumNalsPerAccessUnit
  · rw [if_pos hcut, if_pos (by tauto)]
    rfl
  rw [if_neg hcut, Word64.checkedSub_eq_sub (by omega) (by decide), some_bind]
  by_cases hroom : d.accumulatedBytes > Word64.sub kMaximumAccessUnitBytes length
  · rw [if_pos hroom, if_pos (by tauto)]
    rfl
  rw [if_neg hroom, if_neg (by tauto)]
  cases rest with
  | nil => exact absurd (hsize.trans List.length_nil) (by omega)
  | cons header data =>
    have hheader : payload[offset + 2]? = some header := hget 2
    rw [hheader, some_bind]
    rfl

/-- The loop over offsets is the loop over the bytes that are left. -/
theorem storeStapElementsChecked_eq {payload : Bytes} {fuel offset : Nat}
    (hfuel : payload.length - offset ≤ fuel) (d : H264Depacketizer) :
    storeStapElementsChecked payload d offset
      = some (storeStapElements fuel d (payload.drop offset)) := by
  induction fuel generalizing offset d with
  | zero => rw [storeStapElementsChecked, if_neg (by omega), storeStapElements]
  | succ fuel ih =>
    rcases hleft : payload.drop offset with _ | ⟨high, _ | ⟨low, rest⟩⟩
    · have hend := List.drop_eq_nil_iff.mp hleft
      rw [storeStapElementsChecked, if_neg (by omega), storeStapElements]
    · have hlength := congrArg List.length hleft
      rw [List.length_drop, List.length_singleton] at hlength
      rw [storeStapElementsChecked, if_pos (by omega), Word64.checkedSub_of_le (by omega),
        some_bind, if_pos (by omega), storeStapElements]
      rfl
    · rw [storeStapElementsChecked_round hleft, storeStapElements]
      dsimp only
      split
      · rfl
      · split
        · rfl
        · rw [ih (by omega), ← List.drop_drop, ← List.drop_drop, hleft]
          rfl

theorem storeStapAChecked_eq (d : H264Depacketizer) (payload : Bytes) :
    d.storeStapAChecked payload = some (d.storeStapA payload) := by
  unfold storeStapAChecked storeStapA
  dsimp only
  rw [storeStapElementsChecked_eq (Nat.sub_le payload.length 1), List.drop_one]

/-! ## Fragments -/

theorem Bounded.takeFragment {d : H264Depacketizer} (h : Bounded d) (indicator header : UInt8)
    {data : Bytes} (hdata : data.length ≤ kMaximumNalBytes) :
    Bounded (d.takeFragment indicator header data) := by
  unfold H264Depacketizer.takeFragment
  extract_lets start again begun
  have hone : 1 ≤ kMaximumNalBytes := by decide
  have hbytes : again.accumulatedBytes = d.accumulatedBytes := by
    dsimp only [again]
    split <;> rfl
  have hnals : again.nals = d.nals := by
    dsimp only [again]
    split <;> rfl
  split
  · split
    · exact h.refill hbytes hnals hone fun hopen => nomatch hopen
    · next hroom =>
      refine h.refill hbytes hnals ?_ (fun _ => List.cons_ne_nil _ _)
      rw [List.length_append]
      show 1 + data.length ≤ kMaximumNalBytes
      omega
  · split
    · next hopen =>
      split
      · exact h.closed rfl rfl rfl rfl
      · next hroom =>
        rw [exceeds_sub_iff hdata (by decide), not_not] at hroom
        refine h.refill rfl rfl ?_ ?_
        · rw [List.length_append]
          exact hroom
        · intro _
          exact List.append_ne_nil_of_left_ne_nil (h.opened hopen) data
    · exact h.same rfl rfl rfl rfl

theorem Bounded.closeFragment {d : H264Depacketizer} (h : Bounded d) (hopen : d.fragmented = true) :
    Bounded d.closeFragment := by
  unfold H264Depacketizer.closeFragment
  extract_lets stored
  have hstored : Bounded stored := by
    dsimp only [stored]
    split
    · exact h.same rfl rfl rfl rfl
    · next hroom => exact h.append (h.opened hopen) h.fragment hroom
  exact hstored.closed rfl rfl rfl rfl

theorem Bounded.storeFuA {d : H264Depacketizer} (h : Bounded d) (indicator header : UInt8)
    {data : Bytes} (hdata : data.length ≤ kMaximumNalBytes) :
    Bounded (d.storeFuA indicator header data) := by
  have htaken := h.takeFragment indicator header hdata
  rw [storeFuA_eq]
  split
  · next hend => exact htaken.closeFragment hend.2
  · exact htaken

theorem takeFragmentChecked_eq (d : H264Depacketizer) (indicator header : UInt8) {data : Bytes}
    (hdata : data.length ≤ kMaximumNalBytes) :
    d.takeFragmentChecked indicator header (indicator :: header :: data)
      = some (d.takeFragment indicator header data) := by
  have hsize : Word64.checkedSub (indicator :: header :: data).length 2 = some data.length := by
    rw [Word64.checkedSub_of_le (by simp)]
    rfl
  have hone : Word64.checkedSub kMaximumNalBytes 1 = some (kMaximumNalBytes - 1) := rfl
  unfold takeFragmentChecked takeFragment
  simp only [decide_eq_true_eq, hsize, hone, some_bind,
    Word64.checkedSub_eq_sub hdata (show kMaximumNalBytes < Word64.size by decide)]
  split
  · split <;> rfl
  · split
    · split <;> rfl
    · rfl

theorem Bounded.closeFragmentChecked_eq {d : H264Depacketizer} (h : Bounded d) :
    d.closeFragmentChecked = some d.closeFragment := by
  have hlimit : kMaximumNalBytes ≤ kMaximumAccessUnitBytes := by decide
  unfold closeFragmentChecked H264Depacketizer.closeFragment
  by_cases hfull : d.nals.length ≥ kMaximumNalsPerAccessUnit
  · rw [if_pos hfull, if_pos (.inl hfull)]
  rw [if_neg hfull, Word64.checkedSub_eq_sub (h.fragment.trans hlimit) (by decide), some_bind]
  by_cases hroom : d.accumulatedBytes > Word64.sub kMaximumAccessUnitBytes d.fragment.length
  · rw [if_pos hroom, if_pos (.inr hroom)]
    rfl
  · rw [if_neg hroom, if_neg (not_or.mpr ⟨hfull, hroom⟩)]
    rfl

theorem Bounded.storeFuAChecked_eq {d : H264Depacketizer} (h : Bounded d)
    (indicator header : UInt8) {data : Bytes} (hdata : data.length ≤ kMaximumNalBytes) :
    d.storeFuAChecked indicator header (indicator :: header :: data)
      = some (d.storeFuA indicator header data) := by
  have htaken := h.takeFragment indicator header hdata
  rw [storeFuAChecked, takeFragmentChecked_eq d indicator header hdata, some_bind, storeFuA_eq,
    htaken.closeFragmentChecked_eq]
  simp only [decide_eq_true_eq]
  split <;> rfl

/-! ## One call -/

theorem Bounded.storePayload {d : H264Depacketizer} (h : Bounded d) {payload : Bytes}
    (hsize : payload.length ≤ kMaximumNalBytes) : Bounded (d.storePayload payload) := by
  unfold H264Depacketizer.storePayload
  dsimp only
  split
  · next hsingle =>
    refine h.storeSingleNal ?_
    rintro rfl
    exact absurd hsingle (by decide)
  · split
    · exact h.storeStapA payload
    · split
      · next indicator header data _ _ =>
        have hdata : data.length ≤ kMaximumNalBytes := by
          rw [List.length_cons, List.length_cons] at hsize
          omega
        split
        · exact h.storeFuA indicator header hdata
        · exact h.same rfl rfl rfl rfl
      · exact h.same rfl rfl rfl rfl

theorem Bounded.storePayloadChecked_eq {d : H264Depacketizer} (h : Bounded d) {payload : Bytes}
    (hne : payload ≠ []) (hsize : payload.length ≤ kMaximumNalBytes) :
    d.storePayloadChecked payload = some (d.storePayload payload) := by
  rcases payload with _ | ⟨indicator, data⟩
  · exact absurd rfl hne
  unfold storePayloadChecked H264Depacketizer.storePayload
  rw [List.getElem?_cons_zero, some_bind, List.headD_cons]
  dsimp only
  split
  · exact storeSingleNalChecked_eq d _
  split
  · exact storeStapAChecked_eq d _
  rcases data with _ | ⟨header, data⟩
  · rw [if_neg (by simp)]
    rfl
  · have hdata : data.length ≤ kMaximumNalBytes := by
      rw [List.length_cons, List.length_cons] at hsize
      omega
    dsimp only
    by_cases hfuA : indicator &&& 0x1F = 28
    · rw [if_pos ⟨hfuA, by simp⟩, if_pos hfuA]
      exact h.storeFuAChecked_eq indicator header hdata
    · rw [if_neg fun hboth => hfuA hboth.1, if_neg hfuA]
      rfl

/-- Nothing of an access unit is left. -/
structure Idle (d : H264Depacketizer) : Prop where
  active : d.active = false
  fragmented : d.fragmented = false
  damaged : d.damaged = false
  bytes : d.accumulatedBytes = 0
  nals : d.nals = []
  fragment : d.fragment = []

theorem idle_reset (d : H264Depacketizer) : Idle d.reset := ⟨rfl, rfl, rfl, rfl, rfl, rfl⟩

theorem Idle.bounded {d : H264Depacketizer} (h : Idle d) : Bounded d :=
  .fresh h.bytes h.nals h.fragment h.fragmented

theorem idle_finishPacket (d : H264Depacketizer) : Idle (d.finishPacket true).2 := by
  unfold finishPacket
  rw [if_neg (by decide)]
  dsimp only
  split_ifs <;> exact idle_reset _

theorem Bounded.finishPacket {d : H264Depacketizer} (h : Bounded d) (marker : Bool) :
    Bounded (d.finishPacket marker).2 := by
  cases marker with
  | false => exact h
  | true => exact (idle_finishPacket d).bounded

theorem Bounded.push {d : H264Depacketizer} (h : Bounded d) {packet : ParsedRtpPacket}
    (hsize : packet.payload.length ≤ kMaximumNalBytes) :
    d.pushChecked packet = some (d.push packet) ∧ Bounded (d.push packet).2 := by
  unfold pushChecked H264Depacketizer.push
  by_cases hignored : packet.payloadType ≠ kH264PayloadType ∨ packet.payload = []
  · rw [if_pos hignored, if_pos hignored]
    exact ⟨rfl, h⟩
  · have hbegun := h.beginPacket packet
    have hne : packet.payload ≠ [] := fun hnil => hignored (.inr hnil)
    rw [if_neg hignored, if_neg hignored, hbegun.storePayloadChecked_eq hne hsize]
    exact ⟨rfl, (hbegun.storePayload hsize).finishPacket packet.marker⟩

/-! ## Sequences of calls -/

/-- The state behind a call. -/
def call (d : H264Depacketizer) : DepacketizerCall → H264Depacketizer
  | .push packet => (d.push packet).2
  | .reset => d.reset

/-- The same with the subtractions of `push` checked. -/
def callChecked (d : H264Depacketizer) : DepacketizerCall → Option H264Depacketizer
  | .push packet => (d.pushChecked packet).map Prod.snd
  | .reset => some d.reset

/-- A packet that is pushed has been parsed from a datagram that UDP can carry. -/
def FromDatagram : DepacketizerCall → Prop
  | .push packet => ∃ datagram : Bytes, datagram.length ≤ 65507
      ∧ parseRtpPacket datagram = some packet
  | .reset => True

theorem parseRtpPacket_payload {datagram : Bytes} {packet : ParsedRtpPacket}
    (h : parseRtpPacket datagram = some packet) :
    packet.payload ≠ [] ∧ packet.payload.length ≤ datagram.length := by
  obtain ⟨d, rfl, rfl⟩ := (parseRtpPacket_eq_some_iff _ _).mp h
  refine ⟨d.payload_ne_nil, ?_⟩
  simp only [RtpDatagram.packet, RtpDatagram.bytes, List.length_append]
  omega

theorem Bounded.call {d : H264Depacketizer} (h : Bounded d) {next : DepacketizerCall}
    (hnext : FromDatagram next) :
    d.callChecked next = some (d.call next) ∧ Bounded (d.call next) := by
  cases next with
  | push packet =>
    obtain ⟨datagram, hlength, hparse⟩ := hnext
    have hlimit : 65507 ≤ kMaximumNalBytes := by decide
    have hpayload := (parseRtpPacket_payload hparse).2
    have hsize : packet.payload.length ≤ kMaximumNalBytes := by omega
    obtain ⟨hchecked, hbounded⟩ := h.push hsize
    refine ⟨?_, hbounded⟩
    rw [callChecked, hchecked]
    rfl
  | reset => exact ⟨rfl, (idle_reset d).bounded⟩

/-- A packet with payload type 96 and the marker leaves nothing behind. -/
theorem idle_call (d : H264Depacketizer) {packet : ParsedRtpPacket}
    (hpacket : FromDatagram (.push packet)) (htype : packet.payloadType = kH264PayloadType)
    (hmarker : packet.marker = true) : Idle (d.call (.push packet)) := by
  obtain ⟨datagram, _, hparse⟩ := hpacket
  rw [H264Depacketizer.call, push_accepted d htype (parseRtpPacket_payload hparse).1, hmarker]
  exact idle_finishPacket _

/-- A fragment that begins an IDR slice. -/
def fragmentPacket : ParsedRtpPacket :=
  { Delivery.markedPacket 7 [0x7C, 0x85, 1] with marker := false, captureTimeNs := 0 }

/-- A slice with the marker. -/
def slicePacket : ParsedRtpPacket := { Delivery.markedPacket 8 [0x41, 2] with captureTimeNs := 0 }

def pendingCalls : List DepacketizerCall :=
  [.push fragmentPacket, .reset, .push fragmentPacket, .push slicePacket]

theorem fromDatagram_fragmentPacket : FromDatagram (.push fragmentPacket) :=
  ⟨[0x80, 0x60, 0, 7, 0, 0, 0, 9, 0, 0, 0, 1, 0x7C, 0x85, 1], by decide, by decide⟩

theorem fromDatagram_slicePacket : FromDatagram (.push slicePacket) :=
  ⟨[0x80, 0xE0, 0, 8, 0, 0, 0, 9, 0, 0, 0, 1, 0x41, 2], by decide, by decide⟩

theorem fromDatagram_pendingCalls : ∀ call ∈ pendingCalls, FromDatagram call := by
  intro call hmem
  simp only [pendingCalls, List.mem_cons, List.not_mem_nil, or_false] at hmem
  rcases hmem with rfl | rfl | rfl | rfl
  · exact fromDatagram_fragmentPacket
  · trivial
  · exact fromDatagram_fragmentPacket
  · exact fromDatagram_slicePacket

/-- **Every sequence of calls.** At each point of it no subtraction has wrapped, the state is
within its limits, and nothing is pending behind a marker. -/
theorem calls_bounded {calls front : List DepacketizerCall}
    (hcalls : ∀ call ∈ calls, FromDatagram call) (hfront : front <+: calls) :
    Trace.run callChecked {} front = some (front.foldl call {})
      ∧ Bounded (front.foldl call {})
      ∧ ∀ packet, front.getLast? = some (.push packet) → packet.payloadType = kH264PayloadType →
          packet.marker = true → Idle (front.foldl call {}) := by
  have hfrom : ∀ call ∈ front, FromDatagram call := fun call hmem =>
    hcalls call (hfront.subset hmem)
  have hstart : Bounded {} := Bounded.fresh rfl rfl rfl rfl
  obtain ⟨hrun, hbounded⟩ :=
    Trace.run_eq_foldl Bounded FromDatagram call (fun _ _ h hnext => h.call hnext) hstart hfrom
  refine ⟨hrun, hbounded, ?_⟩
  intro packet hlast htype hmarker
  obtain ⟨before, rfl⟩ := List.getLast?_eq_some_iff.mp hlast
  rw [List.foldl_append]
  exact idle_call _ (hfrom _ (by simp)) htype hmarker

theorem calls_bounded_pending :
    Bounded ((pendingCalls.take 3).foldl call {})
      ∧ ((pendingCalls.take 3).foldl call {}).fragment = [0x65, 1]
      ∧ Trace.run callChecked {} pendingCalls = some (pendingCalls.foldl call {})
      ∧ Idle (pendingCalls.foldl call {}) := by
  obtain ⟨_, hbounded, _⟩ := calls_bounded fromDatagram_pendingCalls (List.take_prefix 3 _)
  obtain ⟨hrun, _, hidle⟩ := calls_bounded fromDatagram_pendingCalls (List.prefix_refl _)
  exact ⟨hbounded, by decide, hrun, hidle _ rfl rfl rfl⟩

end H264Depacketizer
end Ipmx.Rtp
