/-
Ipmx.Rtp.DepacketizerTheorems — what one packet does to the reassembly state.

`Holds d taken cur` says that an undamaged depacketizer has collected the
units `taken` and is inside the unit `cur`. `Holds.store` is the step lemma:
on the next packet of a sender described by `Remaining`, the depacketizer
again holds what the sender has sent, or it is damaged and the whole unit
exceeds the size limits. It is proved by one case for each packet kind; the
rest of `push` (timestamps, continuity, marker) is treated by small lemmas on
`beginPacket` and `finishPacket`.
-/
import Ipmx.Rtp.Depacketizer
import Ipmx.Rtp.PacketizerTheorems

namespace Ipmx.Rtp

open H264
open Ipmx.Lib

/-! ## The size limits of an access unit -/

def totalBytes (nals : List NalUnit) : Nat := (nals.map List.length).sum

@[simp] theorem totalBytes_nil : totalBytes [] = 0 := rfl

@[simp] theorem totalBytes_append (xs ys : List NalUnit) :
    totalBytes (xs ++ ys) = totalBytes xs + totalBytes ys := by
  simp [totalBytes]

@[simp] theorem totalBytes_cons (nal : NalUnit) (nals : List NalUnit) :
    totalBytes (nal :: nals) = nal.length + totalBytes nals := by
  simp [totalBytes]

/-- What the depacketizer is ready to collect. -/
structure WithinLimits (nals : List NalUnit) : Prop where
  count : nals.length ≤ kMaximumNalsPerAccessUnit
  nal : ∀ nal ∈ nals, nal.length ≤ kMaximumNalBytes
  total : totalBytes nals ≤ kMaximumAccessUnitBytes

theorem WithinLimits.nil : WithinLimits [] := ⟨by simp, by simp, by simp⟩

theorem WithinLimits.left {xs : List NalUnit} (ys : List NalUnit) (h : WithinLimits (xs ++ ys)) :
    WithinLimits xs where
  count := by have := h.count; rw [List.length_append] at this; omega
  nal := fun nal hnal => h.nal nal (List.mem_append_left _ hnal)
  total := by have := h.total; rw [totalBytes_append] at this; omega

/-- The two checks made before a unit is stored are exactly the limits. -/
theorem withinLimits_append_singleton {taken : List NalUnit} {nal : NalUnit}
    (h : WithinLimits taken) (hnal : nal.length ≤ kMaximumNalBytes) :
    WithinLimits (taken ++ [nal]) ↔
      taken.length < kMaximumNalsPerAccessUnit
        ∧ totalBytes taken + nal.length ≤ kMaximumAccessUnitBytes := by
  constructor
  · intro h'
    have hcount := h'.count
    have htotal := h'.total
    simp only [List.length_append, List.length_singleton] at hcount
    simp only [totalBytes_append, totalBytes_cons, totalBytes_nil] at htotal
    exact ⟨by omega, by omega⟩
  · rintro ⟨hcount, htotal⟩
    refine ⟨by simp only [List.length_append, List.length_singleton]; omega, ?_, by
      simp only [totalBytes_append, totalBytes_cons, totalBytes_nil]; omega⟩
    intro x hx
    rcases List.mem_append.mp hx with hx | hx
    · exact h.nal x hx
    · rw [List.mem_singleton.mp hx]; exact hnal

/-! ## The state between two packets -/

/-- An undamaged depacketizer that has collected `taken` and is inside `cur`. -/
structure Holds (d : H264Depacketizer) (taken : List NalUnit)
    (cur : Option (NalUnit × Bytes)) : Prop where
  undamaged : d.damaged = false
  nals : d.nals = taken
  bytes : d.accumulatedBytes = totalBytes taken
  limits : WithinLimits taken
  fragmented : d.fragmented = cur.isSome
  fragment : ∀ sent more, cur = some (sent, more) →
    d.fragment = sent ∧ sent.length ≤ kMaximumNalBytes

namespace H264Depacketizer

/-- What every payload branch leaves alone: the stream fields, and damage once done. -/
structure SameStream (d d' : H264Depacketizer) : Prop where
  active : d'.active = d.active
  timestamp : d'.timestamp = d.timestamp
  captureTimeNs : d'.captureTimeNs = d.captureTimeNs
  lastSequence : d'.lastSequence = d.lastSequence
  damaged : d.damaged = true → d'.damaged = true

theorem SameStream.refl (d : H264Depacketizer) : SameStream d d := ⟨rfl, rfl, rfl, rfl, id⟩

theorem SameStream.trans {d₁ d₂ d₃ : H264Depacketizer} (h : SameStream d₁ d₂)
    (h' : SameStream d₂ d₃) : SameStream d₁ d₃ :=
  ⟨h'.active.trans h.active, h'.timestamp.trans h.timestamp,
   h'.captureTimeNs.trans h.captureTimeNs, h'.lastSequence.trans h.lastSequence,
   fun hd => h'.damaged (h.damaged hd)⟩

theorem abandonFragment_frame (d : H264Depacketizer) : SameStream d d.abandonFragment := by
  unfold abandonFragment
  split
  · exact ⟨rfl, rfl, rfl, rfl, fun _ => rfl⟩
  · exact .refl d

theorem storeSingleNal_frame (d : H264Depacketizer) (payload : Bytes) :
    SameStream d (d.storeSingleNal payload) := by
  refine (abandonFragment_frame d).trans ?_
  unfold storeSingleNal
  dsimp only
  split
  · exact ⟨rfl, rfl, rfl, rfl, fun _ => rfl⟩
  · exact ⟨rfl, rfl, rfl, rfl, id⟩

theorem storeStapElements_frame (fuel : Nat) (d : H264Depacketizer) (bytes : Bytes) :
    SameStream d (storeStapElements fuel d bytes) := by
  induction fuel generalizing d bytes with
  | zero => exact .refl d
  | succ fuel ih =>
    match bytes with
    | [] => exact .refl d
    | [_] => exact ⟨rfl, rfl, rfl, rfl, fun _ => rfl⟩
    | high :: low :: rest =>
      rw [storeStapElements]
      dsimp only
      split
      · exact ⟨rfl, rfl, rfl, rfl, fun _ => rfl⟩
      · split
        · exact ⟨rfl, rfl, rfl, rfl, fun _ => rfl⟩
        · refine SameStream.trans ?_ (ih _ _)
          exact ⟨rfl, rfl, rfl, rfl, id⟩

theorem storeStapA_frame (d : H264Depacketizer) (payload : Bytes) :
    SameStream d (d.storeStapA payload) := by
  refine (abandonFragment_frame d).trans (SameStream.trans ?_ (storeStapElements_frame _ _ _))
  split
  · exact ⟨rfl, rfl, rfl, rfl, fun _ => rfl⟩
  · exact .refl _

/-- What `storeFuA` does before it looks at the end bit. -/
def takeFragment (d : H264Depacketizer) (indicator header : UInt8) (data : Bytes) :
    H264Depacketizer :=
  let start : Bool := header &&& 0x80 ≠ 0
  if start then
    let d := if d.fragmented then { d with damaged := true } else d
    let d := { d with fragment := [(indicator &&& 0xE0) ||| (header &&& 0x1F)] }
    if data.length > kMaximumNalBytes - 1 then
      { d with damaged := true, fragmented := false }
    else
      { d with fragment := d.fragment ++ data, fragmented := true }
  else if d.fragmented then
    if d.fragment.length > Word64.sub kMaximumNalBytes data.length then
      { d with damaged := true, fragment := [], fragmented := false }
    else
      { d with fragment := d.fragment ++ data }
  else
    { d with damaged := true }

/-- What it does on the end bit of an open fragment. -/
def closeFragment (d : H264Depacketizer) : H264Depacketizer :=
  let d : H264Depacketizer :=
    if d.nals.length ≥ kMaximumNalsPerAccessUnit
        ∨ d.accumulatedBytes > Word64.sub kMaximumAccessUnitBytes d.fragment.length then
      { d with damaged := true }
    else
      { d with
        accumulatedBytes := d.accumulatedBytes + d.fragment.length
        nals := d.nals ++ [d.fragment] }
  { d with fragment := [], fragmented := false }

theorem storeFuA_eq (d : H264Depacketizer) (indicator header : UInt8) (data : Bytes) :
    d.storeFuA indicator header data
      = if decide (header &&& 0x40 ≠ 0) = true
            ∧ (d.takeFragment indicator header data).fragmented = true then
          (d.takeFragment indicator header data).closeFragment
        else
          d.takeFragment indicator header data := rfl

theorem takeFragment_frame (d : H264Depacketizer) (indicator header : UInt8) (data : Bytes) :
    SameStream d (d.takeFragment indicator header data) := by
  unfold takeFragment
  extract_lets start again begun
  have hagain : SameStream d again := by
    dsimp only [again]
    split
    · exact ⟨rfl, rfl, rfl, rfl, fun _ => rfl⟩
    · exact .refl d
  split
  · split
    · exact hagain.trans ⟨rfl, rfl, rfl, rfl, fun _ => rfl⟩
    · exact hagain.trans ⟨rfl, rfl, rfl, rfl, id⟩
  · split
    · split
      · exact ⟨rfl, rfl, rfl, rfl, fun _ => rfl⟩
      · exact ⟨rfl, rfl, rfl, rfl, id⟩
    · exact ⟨rfl, rfl, rfl, rfl, fun _ => rfl⟩

theorem closeFragment_frame (d : H264Depacketizer) : SameStream d d.closeFragment := by
  unfold closeFragment
  extract_lets stored
  have hstored : SameStream d stored := by
    dsimp only [stored]
    split
    · exact ⟨rfl, rfl, rfl, rfl, fun _ => rfl⟩
    · exact ⟨rfl, rfl, rfl, rfl, id⟩
  exact hstored.trans ⟨rfl, rfl, rfl, rfl, id⟩

theorem storeFuA_frame (d : H264Depacketizer) (indicator header : UInt8) (data : Bytes) :
    SameStream d (d.storeFuA indicator header data) := by
  have htaken := takeFragment_frame d indicator header data
  rw [storeFuA_eq]
  split
  · exact htaken.trans (closeFragment_frame _)
  · exact htaken

theorem storePayload_frame (d : H264Depacketizer) (payload : Bytes) :
    SameStream d (d.storePayload payload) := by
  unfold storePayload
  dsimp only
  split
  · exact storeSingleNal_frame d payload
  · split
    · exact storeStapA_frame d payload
    · split
      · split
        · exact storeFuA_frame d _ _ _
        · exact ⟨rfl, rfl, rfl, rfl, fun _ => rfl⟩
      · exact ⟨rfl, rfl, rfl, rfl, fun _ => rfl⟩

/-! ## Before the payload -/

theorem push_accepted (d : H264Depacketizer) {packet : ParsedRtpPacket}
    (htype : packet.payloadType = kH264PayloadType) (hne : packet.payload ≠ []) :
    d.push packet
      = ((d.beginPacket packet).storePayload packet.payload).finishPacket packet.marker := by
  rw [push, if_neg]
  simp [htype, hne]

/-- A packet is inside the timestamp of the state or outside. -/
theorem inside_or_outside (d : H264Depacketizer) (packet : ParsedRtpPacket) :
    (d.active = true ∧ d.timestamp = packet.timestamp)
      ∨ (d.active = false ∨ d.timestamp ≠ packet.timestamp) := by
  cases hactive : d.active with
  | false => exact .inr (.inl rfl)
  | true =>
    by_cases htimestamp : d.timestamp = packet.timestamp
    · exact .inl ⟨rfl, htimestamp⟩
    · exact .inr (.inr htimestamp)

/-- A packet outside the timestamp of the state starts afresh. -/
theorem beginPacket_restart {d : H264Depacketizer} (packet : ParsedRtpPacket)
    (h : d.active = false ∨ d.timestamp ≠ packet.timestamp) :
    d.beginPacket packet
      = { active := true, fragmented := false, damaged := false, timestamp := packet.timestamp
          captureTimeNs := packet.captureTimeNs, lastSequence := packet.sequence
          accumulatedBytes := 0, nals := [], fragment := [] } := by
  have hstart : !d.active ∨ packet.timestamp ≠ d.timestamp := by
    rcases h with h | h
    · exact .inl (by simp [h])
    · exact .inr (Ne.symm h)
  unfold beginPacket
  rw [if_pos hstart]
  by_cases hcap : packet.captureTimeNs = 0 <;> simp [startTimestamp, hcap]

/-- A packet inside it is checked for continuity. -/
theorem beginPacket_follows {d : H264Depacketizer} (packet : ParsedRtpPacket)
    (hactive : d.active = true) (htimestamp : d.timestamp = packet.timestamp) :
    d.beginPacket packet
      = { d with
          captureTimeNs := if d.captureTimeNs = 0 then packet.captureTimeNs else d.captureTimeNs
          damaged := d.damaged || decide ((d.fragmented ∨ d.nals ≠ [])
            ∧ d.lastSequence + 1 ≠ packet.sequence)
          lastSequence := packet.sequence } := by
  have hstay : ¬ (!d.active ∨ packet.timestamp ≠ d.timestamp) := by
    simp [hactive, htimestamp]
  unfold beginPacket
  rw [if_neg hstay]
  by_cases hcap : d.captureTimeNs = 0 <;>
    by_cases hgap : (d.fragmented ∨ d.nals ≠ []) ∧ d.lastSequence + 1 ≠ packet.sequence <;>
    simp [hcap, hgap]

end H264Depacketizer

/-! ## Each packet kind on an undamaged state -/

/-- `kMaximumAccessUnitBytes - size` does not wrap for a unit within its own limit. -/
theorem exceeds_sub_iff {a maximum size : Nat} (hsize : size ≤ maximum)
    (hmax : maximum < Word64.size) :
    a > Word64.sub maximum size ↔ ¬ a + size ≤ maximum := by
  rw [Word64.sub_of_le hsize hmax]
  omega

/-- The checks made before a unit is stored fail exactly if it does not fit the limits. -/
theorem Holds.full_iff {d : H264Depacketizer} {taken : List NalUnit}
    {cur : Option (NalUnit × Bytes)} (h : Holds d taken cur) {nal : NalUnit}
    (hnal : nal.length ≤ kMaximumNalBytes) :
    d.nals.length ≥ kMaximumNalsPerAccessUnit
        ∨ d.accumulatedBytes > Word64.sub kMaximumAccessUnitBytes nal.length
      ↔ ¬ WithinLimits (taken ++ [nal]) := by
  have hlimit : kMaximumNalBytes ≤ kMaximumAccessUnitBytes := by decide
  rw [h.nals, h.bytes, exceeds_sub_iff (hnal.trans hlimit) (by decide),
    withinLimits_append_singleton h.limits hnal]
  omega

/-- The step outcome shared by the packet kinds: the units `final` are collected, or they do
not fit and the unit is damaged. -/
def Stored (d : H264Depacketizer) (final : List NalUnit)
    (cur : Option (NalUnit × Bytes)) (whole : List NalUnit) : Prop :=
  Holds d final cur ∨ d.damaged = true ∧ ¬ WithinLimits whole

theorem Holds.abandonFragment {d : H264Depacketizer} {taken : List NalUnit}
    (h : Holds d taken none) : d.abandonFragment = d := by
  have : d.fragmented = false := h.fragmented
  simp [H264Depacketizer.abandonFragment, this]

/-- Storing a whole unit, the end of both the Single NAL and the STAP-A element branch. -/
theorem Holds.append {d : H264Depacketizer} {taken : List NalUnit} (h : Holds d taken none)
    {nal : NalUnit} (hfits : WithinLimits (taken ++ [nal])) :
    Holds { d with
      nals := d.nals ++ [nal], accumulatedBytes := d.accumulatedBytes + nal.length }
      (taken ++ [nal]) none where
  undamaged := h.undamaged
  nals := by rw [h.nals]
  bytes := by rw [h.bytes, totalBytes_append, totalBytes_cons, totalBytes_nil, Nat.add_zero]
  limits := hfits
  fragmented := h.fragmented
  fragment := fun _ _ hcur => nomatch hcur

theorem Holds.storeSingleNal {d : H264Depacketizer} {taken : List NalUnit}
    (h : Holds d taken none) {nal : NalUnit} (hsize : nal.length ≤ payloadLimit) :
    Stored (d.storeSingleNal nal) (taken ++ [nal]) none (taken ++ [nal]) := by
  have hnal : nal.length ≤ kMaximumNalBytes := by
    refine hsize.trans ?_
    decide
  have hcheck : nal.length > kMaximumNalBytes ∨ d.nals.length ≥ kMaximumNalsPerAccessUnit
        ∨ d.accumulatedBytes > Word64.sub kMaximumAccessUnitBytes nal.length
      ↔ ¬ WithinLimits (taken ++ [nal]) := by
    rw [or_iff_right (Nat.not_lt.mpr hnal)]
    exact h.full_iff hnal
  rw [H264Depacketizer.storeSingleNal, h.abandonFragment]
  by_cases hfits : WithinLimits (taken ++ [nal])
  · left
    rw [if_neg (mt hcheck.mp (not_not.mpr hfits))]
    exact h.append hfits
  · right
    rw [if_pos (hcheck.mpr hfits)]
    exact ⟨rfl, hfits⟩

/-- The length field in front of a STAP-A element. -/
theorem stapLength {n : Nat} (h : n ≤ 65535) :
    (((UInt8.ofNat (n >>> 8)).toUInt16 <<< 8) ||| (UInt8.ofNat n).toUInt16).toNat = n := by
  have hv : (UInt16.ofNat n).toNat = n := by simp; omega
  have hhigh : UInt8.ofNat (n >>> 8) = ((UInt16.ofNat n) >>> 8).toUInt8 := by
    rw [← UInt8.toNat_inj]
    simp [Nat.shiftRight_eq_div_pow]
    omega
  have hlow : UInt8.ofNat n = (UInt16.ofNat n).toUInt8 := by
    rw [← UInt8.toNat_inj]
    simp
  rw [hhigh, hlow, joinU16, hv]

theorem carriable_type_passes {nal rest : NalUnit} (h : Carriable nal) :
    ¬ ((nal ++ rest).headD 0 &&& 0x1F = 0 ∨ (nal ++ rest).headD 0 &&& 0x1F ≥ 24) := by
  have hrange : ∀ t : UInt8, 1 ≤ t ∧ t ≤ 23 → ¬ (t = 0 ∨ t ≥ 24) := by decide +kernel
  cases nal with
  | nil => exact absurd rfl h.ne_nil
  | cons header data => exact hrange _ h

theorem Holds.storeStapElements {d : H264Depacketizer} {taken group : List NalUnit}
    (h : Holds d taken none) (hgroup : ∀ nal ∈ group, Carriable nal ∧ nal.length ≤ 65535)
    (fuel : Nat)
    (hfuel : (group.flatMap fun nal =>
      [UInt8.ofNat (nal.length >>> 8), UInt8.ofNat nal.length] ++ nal).length ≤ fuel) :
    Stored (H264Depacketizer.storeStapElements fuel d (group.flatMap fun nal =>
        [UInt8.ofNat (nal.length >>> 8), UInt8.ofNat nal.length] ++ nal))
      (taken ++ group) none (taken ++ group) := by
  induction group generalizing d taken fuel with
  | nil =>
    left
    cases fuel <;> simpa [H264Depacketizer.storeStapElements] using h
  | cons nal group ih =>
    obtain ⟨hnal, hlength⟩ := hgroup nal (by simp)
    have hpos := hnal.length_pos
    rw [List.flatMap_cons] at hfuel ⊢
    generalize hmore : (group.flatMap fun nal =>
      [UInt8.ofNat (nal.length >>> 8), UInt8.ofNat nal.length] ++ nal) = more at *
    obtain ⟨fuel, rfl⟩ : ∃ f, fuel = f + 1 := by
      refine ⟨fuel - 1, ?_⟩
      simp only [List.length_append, List.length_cons] at hfuel
      omega
    simp only [List.cons_append, List.nil_append]
    rw [H264Depacketizer.storeStapElements]
    simp only [stapLength hlength, List.take_left, List.drop_left]
    have hbig : nal.length ≤ kMaximumNalBytes := hlength.trans (by decide)
    have hcheck : nal.length = 0 ∨ nal.length > (nal ++ more).length
          ∨ d.nals.length ≥ kMaximumNalsPerAccessUnit
          ∨ d.accumulatedBytes > Word64.sub kMaximumAccessUnitBytes nal.length
        ↔ ¬ WithinLimits (taken ++ [nal]) := by
      rw [or_iff_right hpos.ne', or_iff_right (by simp)]
      exact h.full_iff hbig
    by_cases hfits : WithinLimits (taken ++ [nal])
    · rw [if_neg (mt hcheck.mp (not_not.mpr hfits)), if_neg (carriable_type_passes hnal)]
      have hrest := ih (h.append hfits) (fun x hx => hgroup x (List.mem_cons_of_mem _ hx)) fuel
        (by simp only [List.length_append, List.length_cons] at hfuel; omega)
      simpa using hrest
    · rw [if_pos (hcheck.mpr hfits)]
      refine .inr ⟨rfl, fun hall => hfits ?_⟩
      exact WithinLimits.left group (by simpa using hall)

theorem Holds.storeStapA {d : H264Depacketizer} {taken group : List NalUnit} {nri : UInt8}
    (h : Holds d taken none) (hne : group ≠ [])
    (hgroup : ∀ nal ∈ group, Carriable nal ∧ nal.length ≤ 65535) :
    Stored (d.storeStapA (stapA nri group)) (taken ++ group) none (taken ++ group) := by
  have hlen : ¬ (stapA nri group).length = 1 := by
    cases group with
    | nil => exact absurd rfl hne
    | cons nal group => simp [stapA]
  rw [H264Depacketizer.storeStapA, h.abandonFragment, if_neg hlen]
  exact h.storeStapElements hgroup _ (by simp [stapA])

/-! ## Fragments -/

theorem Holds.storeFuA_start {d : H264Depacketizer} {taken : List NalUnit} {header : UInt8}
    {data more : Bytes} (h : Holds d taken none) (hsize : data.length + 2 ≤ payloadLimit) :
    Holds (d.storeFuA ((header &&& 0xE0) ||| 28)
        ((header &&& 0x1F) ||| 0x80 ||| 0) data)
      taken (some (header :: data, more)) := by
  have hbits : ∀ x : UInt8, (((x &&& 0x1F) ||| 0x80 ||| 0) &&& 0x80 ≠ 0)
      ∧ ¬ (((x &&& 0x1F) ||| 0x80 ||| 0) &&& 0x40 ≠ 0)
      ∧ (((x &&& 0xE0) ||| 28) &&& 0xE0) ||| (((x &&& 0x1F) ||| 0x80 ||| 0) &&& 0x1F) = x := by
    decide +kernel
  obtain ⟨hstart, hlast, hheader⟩ := hbits header
  have hfrag : d.fragmented = false := h.fragmented
  have hlimit : payloadLimit ≤ kMaximumNalBytes := by decide
  have hfit : ¬ data.length > kMaximumNalBytes - 1 := by omega
  unfold H264Depacketizer.storeFuA
  simp only [hstart, hlast, decide_true, decide_false, hheader, hfrag, if_true, hfit,
    Bool.false_eq_true, false_and, if_false, not_false_eq_true, ne_eq]
  exact ⟨h.undamaged, h.nals, h.bytes, h.limits, rfl, by
    rintro _ _ ⟨⟩
    exact ⟨rfl, by simp only [List.length_cons]; omega⟩⟩

/-- A continuation is appended, or the unit has outgrown its limit. -/
theorem Holds.storeFuA_middle {d : H264Depacketizer} {taken rest : List NalUnit}
    {header : UInt8} {sent : NalUnit} {data more : Bytes}
    (h : Holds d taken (some (sent, data ++ more))) (hsize : data.length + 2 ≤ payloadLimit) :
    Stored (d.storeFuA ((header &&& 0xE0) ||| 28) ((header &&& 0x1F) ||| 0 ||| 0) data)
      taken (some (sent ++ data, more)) (taken ++ (sent ++ (data ++ more)) :: rest) := by
  have hbits : ∀ x : UInt8, ¬ (((x &&& 0x1F) ||| 0 ||| 0) &&& 0x80 ≠ 0)
      ∧ ¬ (((x &&& 0x1F) ||| 0 ||| 0) &&& 0x40 ≠ 0) := by
    decide +kernel
  obtain ⟨hstart, hlast⟩ := hbits header
  obtain ⟨hfragment, hsent⟩ := h.fragment _ _ rfl
  have hlimit : payloadLimit ≤ kMaximumNalBytes := by decide
  have hacc := exceeds_sub_iff (a := sent.length)
    (show data.length ≤ kMaximumNalBytes by omega) (by decide)
  unfold H264Depacketizer.storeFuA
  simp only [hstart, hlast, decide_false, Bool.false_eq_true, false_and, if_false, hfragment,
    hacc, show d.fragmented = true from h.fragmented, if_true]
  by_cases hfits : sent.length + data.length ≤ kMaximumNalBytes
  · rw [if_neg (not_not.mpr hfits)]
    left
    exact ⟨h.undamaged, h.nals, h.bytes, h.limits, rfl, by
      rintro _ _ ⟨⟩
      exact ⟨rfl, by rwa [List.length_append]⟩⟩
  · rw [if_pos hfits]
    refine .inr ⟨rfl, fun hall => hfits ?_⟩
    have := hall.nal (sent ++ (data ++ more)) (by simp)
    simp only [List.length_append] at this
    omega

/-- The last fragment completes its unit, or the access unit has outgrown its limits. -/
theorem Holds.storeFuA_end {d : H264Depacketizer} {taken rest : List NalUnit}
    {header : UInt8} {sent : NalUnit} {data : Bytes}
    (h : Holds d taken (some (sent, data))) (hsize : data.length + 2 ≤ payloadLimit) :
    Stored (d.storeFuA ((header &&& 0xE0) ||| 28) ((header &&& 0x1F) ||| 0 ||| 0x40) data)
      (taken ++ [sent ++ data]) none (taken ++ (sent ++ data) :: rest) := by
  have hbits : ∀ x : UInt8, ¬ (((x &&& 0x1F) ||| 0 ||| 0x40) &&& 0x80 ≠ 0)
      ∧ (((x &&& 0x1F) ||| 0 ||| 0x40) &&& 0x40 ≠ 0) := by
    decide +kernel
  obtain ⟨hstart, hlast⟩ := hbits header
  obtain ⟨hfragment, hsent⟩ := h.fragment _ _ rfl
  have hfragmented : d.fragmented = true := h.fragmented
  have hlimit : payloadLimit ≤ kMaximumNalBytes := by decide
  have hacc := exceeds_sub_iff (a := sent.length)
    (show data.length ≤ kMaximumNalBytes by omega) (by decide)
  have hsplit : taken ++ (sent ++ data) :: rest = taken ++ [sent ++ data] ++ rest := by simp
  unfold H264Depacketizer.storeFuA
  simp only [hstart, hlast, decide_false, decide_true, Bool.false_eq_true, if_false, hfragment,
    hacc, hfragmented, if_true, ne_eq, not_false_eq_true]
  by_cases hnal : sent.length + data.length ≤ kMaximumNalBytes
  · have hlength : (sent ++ data).length ≤ kMaximumNalBytes := by rwa [List.length_append]
    have hcheck := h.full_iff hlength
    simp only [not_not.mpr hnal, if_false, and_self, if_true]
    by_cases hfits : WithinLimits (taken ++ [sent ++ data])
    · left
      rw [if_neg (mt hcheck.mp (not_not.mpr hfits))]
      exact ⟨h.undamaged, by rw [h.nals], by rw [h.bytes]; simp, hfits, rfl,
        fun _ _ hcur => nomatch hcur⟩
    · right
      rw [if_pos (hcheck.mpr hfits)]
      refine ⟨rfl, fun hall => hfits ?_⟩
      rw [hsplit] at hall
      exact hall.left
  · simp only [hnal, not_false_eq_true, if_true, Bool.false_eq_true, and_false, if_false]
    refine .inr ⟨rfl, fun hall => hnal ?_⟩
    have := hall.nal (sent ++ data) (by simp)
    rwa [List.length_append] at this

/-! ## The dispatch -/

theorem storePayload_single (d : H264Depacketizer) {nal : NalUnit} (h : Carriable nal) :
    d.storePayload nal = d.storeSingleNal nal := by
  cases nal with
  | nil => exact absurd rfl h.ne_nil
  | cons header data => exact if_pos h

theorem storePayload_stapA (d : H264Depacketizer) {nri : UInt8} (group : List NalUnit)
    (h : nri &&& 0x1F = 0) : d.storePayload (stapA nri group) = d.storeStapA (stapA nri group) := by
  have htype : (stapA nri group).headD 0 &&& 0x1F = 24 := stapA_type h
  unfold H264Depacketizer.storePayload
  simp only [htype]
  rw [if_neg (by simp), if_pos trivial]

theorem storePayload_fuA (d : H264Depacketizer) (header : UInt8) (first last : Bool)
    (data : Bytes) :
    d.storePayload (fuA header first last data)
      = d.storeFuA ((header &&& 0xE0) ||| 28)
          ((header &&& 0x1F) ||| (if first then 0x80 else 0) ||| (if last then 0x40 else 0))
          data := by
  have hbits : ∀ x : UInt8, ((x &&& 0xE0) ||| 28) &&& 0x1F = 28 := by decide +kernel
  have htype : (fuA header first last data).headD 0 &&& 0x1F = 28 := hbits header
  unfold H264Depacketizer.storePayload
  simp only [htype]
  rfl

/-- **One packet.** A depacketizer that holds what a sender has sent still does after the
sender's next packet, unless the unit as a whole exceeds the limits. -/
theorem Holds.store {d : H264Depacketizer} {taken rest : List NalUnit}
    {cur : Option (NalUnit × Bytes)} {plan : PacketPlan} {plans : List PacketPlan}
    (h : Holds d taken cur) (hr : Remaining cur rest (plan :: plans)) :
    ∃ cur' rest' taken', Remaining cur' rest' plans
      ∧ taken' ++ owed cur' rest' = taken ++ owed cur rest
      ∧ (taken' ≠ [] ∨ cur'.isSome)
      ∧ Stored (d.storePayload plan.payload) taken' cur' (taken ++ owed cur rest) := by
  cases hr with
  | @single nal rest plans hnal hsize later =>
    refine ⟨none, rest, taken ++ [nal], later, by simp [owed], by simp, ?_⟩
    rw [storePayload_single d hnal]
    rcases h.storeSingleNal hsize with hok | ⟨hdamaged, hexceeds⟩
    · exact .inl hok
    · refine .inr ⟨hdamaged, fun hall => hexceeds (WithinLimits.left rest ?_)⟩
      simpa [owed] using hall
  | @aggregated nri group rest plans hne hnri hgroup hsize later =>
    refine ⟨none, rest, taken ++ group, later, by simp [owed], by simp [hne], ?_⟩
    rw [storePayload_stapA d group hnri]
    rcases h.storeStapA hne hgroup with hok | ⟨hdamaged, hexceeds⟩
    · exact .inl hok
    · refine .inr ⟨hdamaged, fun hall => hexceeds (WithinLimits.left rest ?_)⟩
      simpa [owed] using hall
  | @fuStart header data more rest plans hnal hsize later =>
    refine ⟨some (header :: data, more), rest, taken, later, rfl, by simp, ?_⟩
    rw [storePayload_fuA]
    exact .inl (h.storeFuA_start hsize)
  | @fuMiddle header sent data more rest plans hsize later =>
    refine ⟨some (sent ++ data, more), rest, taken, later, by simp [owed], by simp, ?_⟩
    rw [storePayload_fuA]
    exact h.storeFuA_middle hsize
  | @fuEnd header sent data rest plans hsize later =>
    refine ⟨none, rest, taken ++ [sent ++ data], later, by simp [owed], by simp, ?_⟩
    rw [storePayload_fuA]
    exact h.storeFuA_end hsize

/-- A fragment that continues one the depacketizer does not have damages the unit. -/
theorem storePayload_orphan {d : H264Depacketizer} {payload : Bytes}
    (hfragmented : d.fragmented = false) (h : continuesFragment payload = true) :
    (d.storePayload payload).damaged = true := by
  obtain ⟨htype, hstart⟩ : payload.headD 0 &&& 0x1F = 28 ∧ payload.tail.headD 0 &&& 0x80 = 0 := by
    simpa [continuesFragment] using h
  unfold H264Depacketizer.storePayload
  simp only [htype]
  rcases payload with _ | ⟨indicator, _ | ⟨header, data⟩⟩
  · rfl
  · rfl
  · have hnostart : ¬ (header &&& 0x80 ≠ 0) := not_not.mpr hstart
    show (d.storeFuA indicator header data).damaged = true
    unfold H264Depacketizer.storeFuA
    simp [hnostart, hfragmented]

end Ipmx.Rtp
