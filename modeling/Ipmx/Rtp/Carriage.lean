/-
Ipmx.Rtp.Carriage — what a sequence of payloads carries, whoever receives it.

`Carries` reads the three payload formats of RFC 6184 one payload after the
other: a Single NAL, the units of a STAP-A, the fragments of an FU-A. It knows
no limits, no packet headers and no order of arrival. `Adds d d' payload` says
that a depacketizer has stored what the payload carries, and
`storePayload_adds` that it has whenever it comes out undamaged: one case for
each branch of the dispatch.
-/
import Ipmx.Rtp.DepacketizerTheorems

namespace Ipmx.Rtp

open H264
open Ipmx.Lib

/-! ## Payload formats -/

/-- The units of a STAP-A behind its header byte, each with its length in front. -/
def aggregatedUnits (group : List NalUnit) : Bytes :=
  group.flatMap fun nal => [UInt8.ofNat (nal.length >>> 8), UInt8.ofNat nal.length] ++ nal

theorem aggregatedUnits_cons (nal : NalUnit) (group : List NalUnit) :
    aggregatedUnits (nal :: group)
      = ([UInt8.ofNat (nal.length >>> 8), UInt8.ofNat nal.length] ++ nal)
        ++ aggregatedUnits group := rfl

/-- The header byte of a fragmented unit, from the two header bytes of an FU-A. -/
def fragmentedHeader (indicator header : UInt8) : UInt8 :=
  (indicator &&& 0xE0) ||| (header &&& 0x1F)

/-- `Carries cur payloads nals`: with the unit `cur` begun, the payloads carry exactly the
units `nals`, and none is left open. -/
inductive Carries : Option NalUnit → List Bytes → List NalUnit → Prop
  | done : Carries none [] []
  | single {nal : NalUnit} {rest : List Bytes} {nals : List NalUnit} (hnal : Carriable nal)
      (later : Carries none rest nals) : Carries none (nal :: rest) (nal :: nals)
  | aggregated {header : UInt8} {group : List NalUnit} {rest : List Bytes}
      {nals : List NalUnit} (htype : header &&& 0x1F = 24) (hne : group ≠ [])
      (hgroup : ∀ nal ∈ group, Carriable nal ∧ nal.length ≤ 65535)
      (later : Carries none rest nals) :
      Carries none ((header :: aggregatedUnits group) :: rest) (group ++ nals)
  | fragmentStart {indicator header : UInt8} {data : Bytes} {rest : List Bytes}
      {nals : List NalUnit} (htype : indicator &&& 0x1F = 28) (hstart : header &&& 0x80 ≠ 0)
      (hmore : header &&& 0x40 = 0)
      (later : Carries (some (fragmentedHeader indicator header :: data)) rest nals) :
      Carries none ((indicator :: header :: data) :: rest) nals
  | fragmentWhole {indicator header : UInt8} {data : Bytes} {rest : List Bytes}
      {nals : List NalUnit} (htype : indicator &&& 0x1F = 28) (hstart : header &&& 0x80 ≠ 0)
      (hend : header &&& 0x40 ≠ 0) (later : Carries none rest nals) :
      Carries none ((indicator :: header :: data) :: rest)
        ((fragmentedHeader indicator header :: data) :: nals)
  | fragmentMiddle {sent : NalUnit} {indicator header : UInt8} {data : Bytes}
      {rest : List Bytes} {nals : List NalUnit} (htype : indicator &&& 0x1F = 28)
      (hmiddle : header &&& 0x80 = 0) (hmore : header &&& 0x40 = 0)
      (later : Carries (some (sent ++ data)) rest nals) :
      Carries (some sent) ((indicator :: header :: data) :: rest) nals
  | fragmentEnd {sent : NalUnit} {indicator header : UInt8} {data : Bytes}
      {rest : List Bytes} {nals : List NalUnit} (htype : indicator &&& 0x1F = 28)
      (hmiddle : header &&& 0x80 = 0) (hend : header &&& 0x40 ≠ 0)
      (later : Carries none rest nals) :
      Carries (some sent) ((indicator :: header :: data) :: rest) ((sent ++ data) :: nals)

/-- A payload of a single unit carries this unit and nothing else. -/
theorem Carries.of_single {nal : NalUnit} {rest : List Bytes} {nals : List NalUnit}
    (hnal : Carriable nal) (h : Carries none (nal :: rest) nals) :
    ∃ later, nals = nal :: later ∧ Carries none rest later := by
  have hrange : ∀ t : UInt8, 1 ≤ t ∧ t ≤ 23 → t ≠ 24 ∧ t ≠ 28 := by decide +kernel
  obtain ⟨hstap, hfu⟩ := hrange _ hnal
  cases h with
  | single _ later => exact ⟨_, rfl, later⟩
  | aggregated htype => exact absurd htype hstap
  | fragmentStart htype => exact absurd htype hfu
  | fragmentWhole htype => exact absurd htype hfu

/-- Payloads of single units carry themselves. -/
theorem Carries.of_singles {payloads : List Bytes} (hsingle : ∀ nal ∈ payloads, Carriable nal)
    {nals : List NalUnit} (h : Carries none payloads nals) : nals = payloads := by
  induction payloads generalizing nals with
  | nil =>
    cases h
    rfl
  | cons nal payloads ih =>
    obtain ⟨later, rfl, hlater⟩ := h.of_single (hsingle nal (by simp))
    rw [ih (fun x hx => hsingle x (List.mem_cons_of_mem _ hx)) hlater]

/-! ## What one payload adds to a depacketizer -/

namespace H264Depacketizer

/-- The unit the depacketizer is inside. -/
def cur (d : H264Depacketizer) : Option NalUnit :=
  if d.fragmented then some d.fragment else none

theorem cur_of_not_fragmented {d : H264Depacketizer} (h : d.fragmented = false) :
    d.cur = none := by
  simp [cur, h]

theorem cur_of_fragmented {d : H264Depacketizer} (h : d.fragmented = true) :
    d.cur = some d.fragment := by
  simp [cur, h]

/-- From `d` to `d'`, the depacketizer has stored what `payload` carries. -/
def Adds (d d' : H264Depacketizer) (payload : Bytes) : Prop :=
  ∃ new, d'.nals = d.nals ++ new ∧ (new ≠ [] ∨ d'.fragmented = true)
    ∧ ∀ rest more, Carries d'.cur rest more → Carries d.cur (payload :: rest) (new ++ more)

theorem SameStream.undamaged {d d' : H264Depacketizer} (h : SameStream d d')
    (hd' : d'.damaged = false) : d.damaged = false := by
  cases hd : d.damaged with
  | false => rfl
  | true => rw [h.damaged hd] at hd'; cases hd'

/-- Without damage there was no open fragment to give up. -/
theorem abandonFragment_undamaged {d : H264Depacketizer}
    (h : d.abandonFragment.damaged = false) :
    d.abandonFragment = d ∧ d.fragmented = false := by
  unfold abandonFragment at h ⊢
  split at h
  · cases h
  · next hopen => exact ⟨if_neg hopen, by simpa using hopen⟩

theorem storeSingleNal_adds {d : H264Depacketizer} {nal : NalUnit} (hnal : Carriable nal)
    (h : (d.storeSingleNal nal).damaged = false) : Adds d (d.storeSingleNal nal) nal := by
  unfold storeSingleNal at h ⊢
  dsimp only at h ⊢
  split at h
  · cases h
  · next hfits =>
    rw [if_neg hfits]
    obtain ⟨heq, hclosed⟩ := abandonFragment_undamaged h
    refine ⟨[nal], by rw [heq], .inl (by simp), ?_⟩
    intro rest more hmore
    rw [cur_of_not_fragmented (by rw [heq]; exact hclosed)] at hmore
    rw [cur_of_not_fragmented hclosed]
    exact .single hnal hmore

/-! ## STAP-A -/

/-- The two length bytes are those of the number read from them. -/
theorem lengthBytes (high low : UInt8) :
    [UInt8.ofNat (((high.toUInt16 <<< 8) ||| low.toUInt16).toNat >>> 8),
      UInt8.ofNat ((high.toUInt16 <<< 8) ||| low.toUInt16).toNat] = [high, low] := by
  have hhigh := high.toNat_lt
  have hlow := low.toNat_lt
  have hvalue : ((high.toUInt16 <<< 8) ||| low.toUInt16).toNat = high.toNat * 256 + low.toNat := by
    have hfits : high.toNat * 256 % 65536 = high.toNat * 256 := Nat.mod_eq_of_lt (by omega)
    rw [UInt16.toNat_or, ← BigEndian.shiftLeft_or_eq _ hlow]
    simp [Nat.shiftLeft_eq, hfits]
  rw [hvalue]
  have h1 : UInt8.ofNat ((high.toNat * 256 + low.toNat) >>> 8) = high := by
    rw [← UInt8.toNat_inj]
    simp [Nat.shiftRight_eq_div_pow]
    omega
  have h2 : UInt8.ofNat (high.toNat * 256 + low.toNat) = low := by
    rw [← UInt8.toNat_inj]
    simp
  rw [h1, h2]

/-- The type check on an element, made on the bytes it begins. -/
theorem carriable_take {rest : Bytes} {length : Nat} (hpos : length ≠ 0)
    (htype : ¬ (rest.headD 0 &&& 0x1F = 0 ∨ rest.headD 0 &&& 0x1F ≥ 24)) :
    Carriable (rest.take length) := by
  have hrange : ∀ t : UInt8, ¬ (t = 0 ∨ t ≥ 24) → 1 ≤ t ∧ t ≤ 23 := by decide +kernel
  cases rest with
  | nil => exact absurd (.inl rfl) htype
  | cons header data =>
    cases length with
    | zero => exact absurd rfl hpos
    | succ length => exact hrange _ htype

/-- The element loop reads the units that were aggregated. -/
theorem storeStapElements_adds {fuel : Nat} {d : H264Depacketizer} {bytes : Bytes}
    (hfuel : bytes.length ≤ fuel) (h : (storeStapElements fuel d bytes).damaged = false) :
    ∃ group, bytes = aggregatedUnits group
      ∧ (∀ nal ∈ group, Carriable nal ∧ nal.length ≤ 65535)
      ∧ (storeStapElements fuel d bytes).nals = d.nals ++ group
      ∧ (storeStapElements fuel d bytes).fragmented = d.fragmented := by
  induction fuel generalizing d bytes with
  | zero =>
    obtain rfl := List.length_eq_zero_iff.mp (Nat.le_zero.mp hfuel)
    exact ⟨[], rfl, by simp, by simp [storeStapElements], rfl⟩
  | succ fuel ih =>
    rcases bytes with _ | ⟨high, _ | ⟨low, rest⟩⟩
    · exact ⟨[], rfl, by simp, by simp [storeStapElements], rfl⟩
    · cases h
    · have hbytes := lengthBytes high low
      have hsize : ((high.toUInt16 <<< 8) ||| low.toUInt16).toNat ≤ 65535 :=
        Nat.le_of_lt_succ (UInt16.toNat_lt _)
      rw [storeStapElements] at h ⊢
      dsimp only at h ⊢
      generalize ((high.toUInt16 <<< 8) ||| low.toUInt16).toNat = length at *
      split at h
      · cases h
      · next hfits =>
        split at h
        · cases h
        · next htype =>
          rw [if_neg hfits, if_neg htype]
          simp only [not_or] at hfits
          have hlength : (rest.take length).length = length := by simp; omega
          obtain ⟨group, hrest, hgroup, hnals, hfragmented⟩ :=
            ih (by simp only [List.length_cons, List.length_drop] at hfuel ⊢; omega) h
          refine ⟨rest.take length :: group, ?_, ?_, ?_, hfragmented⟩
          · rw [aggregatedUnits_cons, hlength, hbytes, ← hrest, List.append_assoc,
              List.take_append_drop]
            rfl
          · intro nal hmem
            rcases List.mem_cons.mp hmem with rfl | hmem
            · exact ⟨carriable_take (by omega) htype, by omega⟩
            · exact hgroup nal hmem
          · rw [hnals, List.append_assoc, List.singleton_append]

theorem storeStapA_adds {d : H264Depacketizer} {payload : Bytes}
    (htype : payload.headD 0 &&& 0x1F = 24) (h : (d.storeStapA payload).damaged = false) :
    Adds d (d.storeStapA payload) payload := by
  cases payload with
  | nil => exact absurd htype (by decide)
  | cons header bytes =>
    have hframe := storeStapElements_frame (header :: bytes).length
    unfold storeStapA at h ⊢
    dsimp only at h ⊢
    have hstart := (hframe _ _).undamaged h
    split at hstart
    · cases hstart
    · next hone =>
      rw [if_neg hone] at h ⊢
      obtain ⟨heq, hclosed⟩ := abandonFragment_undamaged hstart
      rw [heq] at h ⊢
      obtain ⟨group, rfl, hgroup, hnals, hfragmented⟩ :=
        storeStapElements_adds (by simp) h
      have hne : group ≠ [] := by
        rintro rfl
        exact hone rfl
      refine ⟨group, hnals, .inl hne, ?_⟩
      intro rest more hmore
      rw [cur_of_not_fragmented (hfragmented.trans hclosed)] at hmore
      rw [cur_of_not_fragmented hclosed]
      exact .aggregated htype hne hgroup hmore

/-! ## FU-A -/

/-- A start fragment: no unit was open, and the fragment is the first part of one. -/
theorem storeFuA_adds_start {d : H264Depacketizer} {indicator header : UInt8} {data : Bytes}
    (htype : indicator &&& 0x1F = 28) (hstart : header &&& 0x80 ≠ 0)
    (h : (d.storeFuA indicator header data).damaged = false) :
    Adds d (d.storeFuA indicator header data) (indicator :: header :: data) := by
  have hclosed : d.fragmented = false := by
    cases hopen : d.fragmented with
    | false => rfl
    | true =>
      unfold storeFuA at h
      simp only [hstart, hopen, decide_true, if_true, ne_eq, not_false_eq_true] at h
      split_ifs at h
  unfold storeFuA at h ⊢
  simp only [hstart, hclosed, decide_true, if_true, ne_eq, not_false_eq_true,
    Bool.false_eq_true, if_false] at h ⊢
  by_cases hfits : data.length > kMaximumNalBytes - 1
  · simp [hfits] at h
  · rw [if_neg hfits] at h ⊢
    by_cases hend : header &&& 0x40 = 0
    · simp only [hend, not_true_eq_false, decide_false, Bool.false_eq_true, false_and,
        if_false] at h ⊢
      refine ⟨[], by simp, .inr rfl, ?_⟩
      intro rest more hmore
      rw [cur_of_not_fragmented hclosed]
      exact .fragmentStart htype hstart hend hmore
    · simp only [hend, not_false_eq_true, decide_true, true_and, if_true] at h ⊢
      split at h
      · cases h
      · next hroom =>
        rw [if_neg hroom]
        refine ⟨[fragmentedHeader indicator header :: data], rfl, .inl (by simp), ?_⟩
        intro rest more hmore
        rw [cur_of_not_fragmented hclosed]
        exact .fragmentWhole htype hstart hend hmore

/-- A later fragment: it belongs to the unit that is open. -/
theorem storeFuA_adds_later {d : H264Depacketizer} {indicator header : UInt8} {data : Bytes}
    (htype : indicator &&& 0x1F = 28) (hlater : header &&& 0x80 = 0)
    (h : (d.storeFuA indicator header data).damaged = false) :
    Adds d (d.storeFuA indicator header data) (indicator :: header :: data) := by
  have hopen : d.fragmented = true := by
    cases hclosed : d.fragmented with
    | true => rfl
    | false =>
      unfold storeFuA at h
      simp [hlater, hclosed] at h
  unfold storeFuA at h ⊢
  simp only [hlater, hopen, not_true_eq_false, decide_false, Bool.false_eq_true, if_false,
    if_true, ne_eq] at h ⊢
  by_cases hfits : d.fragment.length > Word64.sub kMaximumNalBytes data.length
  · simp [hfits] at h
  · rw [if_neg hfits] at h ⊢
    by_cases hend : header &&& 0x40 = 0
    · simp only [hend, not_true_eq_false, decide_false, Bool.false_eq_true, false_and,
        if_false] at h ⊢
      refine ⟨[], by simp, .inr rfl, ?_⟩
      intro rest more hmore
      rw [cur_of_fragmented hopen]
      exact .fragmentMiddle htype hlater hend hmore
    · simp only [hend, not_false_eq_true, decide_true, true_and, if_true] at h ⊢
      split at h
      · cases h
      · next hroom =>
        rw [if_neg hroom]
        refine ⟨[d.fragment ++ data], rfl, .inl (by simp), ?_⟩
        intro rest more hmore
        rw [cur_of_fragmented hopen]
        exact .fragmentEnd htype hlater hend hmore

/-! ## The dispatch -/

/-- **One payload.** Whatever an undamaged depacketizer stores is what the payload carries. -/
theorem storePayload_adds {d : H264Depacketizer} {payload : Bytes}
    (h : (d.storePayload payload).damaged = false) :
    Adds d (d.storePayload payload) payload := by
  unfold storePayload at h ⊢
  dsimp only at h ⊢
  split at h
  · next hsingle =>
    rw [if_pos hsingle]
    refine storeSingleNal_adds ?_ h
    cases payload with
    | nil => exact absurd hsingle (by decide)
    | cons header data => exact hsingle
  · next hsingle =>
    rw [if_neg hsingle]
    split at h
    · next hstap =>
      rw [if_pos hstap]
      exact storeStapA_adds hstap h
    · next hstap =>
      rw [if_neg hstap]
      split at h
      · next indicator header data =>
        split at h
        · next hfu =>
          rw [if_pos hfu]
          by_cases hlater : header &&& 0x80 = 0
          · exact storeFuA_adds_later hfu hlater h
          · exact storeFuA_adds_start hfu hlater h
        · cases h
      · cases h

end H264Depacketizer
end Ipmx.Rtp
