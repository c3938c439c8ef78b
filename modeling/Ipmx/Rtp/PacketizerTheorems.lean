/-
Ipmx.Rtp.PacketizerTheorems — the shape of what `packetize` sends.

`Remaining cur rest plans` describes a sender in the middle of an access
unit: `plans` are the packets still to come, `rest` the NAL units not begun,
and `cur` the unit under fragmentation, as the bytes sent and the bytes to
come. Its constructors are the packet kinds of the source, so a receiver is
verified by one case per constructor. `packetizeLoop_remaining` says that
`packetize` produces such a description from the start of any list of
carriable units, and `packetizeLoop_drop` locates every later packet: it
either begins a unit, and then the packets from there on are the
packetization of the units from there on, or it continues a fragment.
-/
import Ipmx.Rtp.PacketTheorems
import Ipmx.Rtp.Packetizer

namespace Ipmx.Rtp

open H264

/-! ## The walk without its skip counter -/

theorem packetizeLoop_skip (m skip : Nat) (nals : List NalUnit) :
    packetizeLoop m skip nals = packetizeLoop m 0 (nals.drop skip) := by
  induction nals generalizing skip with
  | nil => simp [packetizeLoop]
  | cons nal rest ih =>
    cases skip with
    | zero => simp
    | succ skip => rw [packetizeLoop, ih, List.drop_succ_cons]

@[simp] theorem packetizeLoop_nil (m skip : Nat) : packetizeLoop m skip [] = [] := by
  simp [packetizeLoop]

/-- One round of the walk on a non-empty unit. -/
theorem packetizeLoop_cons (m : Nat) (header : UInt8) (data : Bytes) (rest : List NalUnit) :
    packetizeLoop m 0 ((header :: data) :: rest)
      = if (aggregate m 1 0 ((header :: data) :: rest)).1 > 1 then
          { payload := stapA (aggregate m 1 0 ((header :: data) :: rest)).2
              (((header :: data) :: rest).take (aggregate m 1 0 ((header :: data) :: rest)).1)
            marker := (aggregate m 1 0 ((header :: data) :: rest)).1
              = ((header :: data) :: rest).length }
            :: packetizeLoop m 0
                (((header :: data) :: rest).drop (aggregate m 1 0 ((header :: data) :: rest)).1)
        else if (header :: data).length ≤ m then
          { payload := header :: data, marker := rest.isEmpty } :: packetizeLoop m 0 rest
        else
          fuFragments (m - 2) header rest.isEmpty (header :: data).length true data
            ++ packetizeLoop m 0 rest := by
  rw [packetizeLoop]
  generalize hagg : aggregate m 1 0 ((header :: data) :: rest) = found
  obtain ⟨count, nri⟩ := found
  dsimp only
  split
  · next hcount =>
    obtain ⟨c, rfl⟩ : ∃ c, count = c + 1 := ⟨count - 1, by omega⟩
    rw [packetizeLoop_skip, List.drop_succ_cons, Nat.add_sub_cancel]
  · rfl

/-! ## The aggregation lookahead -/

theorem aggregate_count_le (m a : Nat) (nri : UInt8) (nals : List NalUnit) :
    (aggregate m a nri nals).1 ≤ nals.length := by
  induction nals generalizing a nri with
  | nil => simp [aggregate]
  | cons nal rest ih =>
    rw [aggregate]
    split
    · simpa using ih _ _
    · simp

/-- The units taken are not empty and fit the 16-bit length field. -/
theorem aggregate_taken (m a : Nat) (nri : UInt8) (nals : List NalUnit) :
    ∀ nal ∈ nals.take (aggregate m a nri nals).1, nal ≠ [] ∧ nal.length ≤ 65535 := by
  induction nals generalizing a nri with
  | nil => simp
  | cons nal rest ih =>
    rw [aggregate]
    split
    · next h =>
      intro x hx
      rcases List.mem_cons.mp (by simpa using hx) with rfl | hx
      · exact ⟨h.1, h.2.1⟩
      · exact ih _ _ x hx
    · simp

/-- The aggregated NRI is a maximum of masked headers: it never touches the type bits. -/
theorem aggregate_nri (m a : Nat) (nri : UInt8) (nals : List NalUnit)
    (h : nri &&& 0x1F = 0) : (aggregate m a nri nals).2 &&& 0x1F = 0 := by
  have hmask : ∀ b : UInt8, (b &&& 0x60) &&& 0x1F = 0 := by decide +kernel
  induction nals generalizing a nri with
  | nil => simpa [aggregate] using h
  | cons nal rest ih =>
    rw [aggregate]
    split
    · refine ih _ _ ?_
      have hmax : max nri (nal.headD 0 &&& 0x60)
          = if nri ≤ nal.headD 0 &&& 0x60 then nal.headD 0 &&& 0x60 else nri := rfl
      rw [hmax]
      split
      · exact hmask _
      · exact h
    · exact h

theorem length_stapA_cons (nri : UInt8) (nal : NalUnit) (group : List NalUnit) :
    (stapA nri (nal :: group)).length = 2 + nal.length + (stapA nri group).length := by
  simp only [stapA, List.flatMap_cons, List.length_append, List.length_cons, List.length_nil]
  omega

/-- The payload built from the units taken stays within the budget. -/
theorem length_stapA_aggregate (m a : Nat) (nri nri' : UInt8) (nals : List NalUnit)
    (ha : a ≤ m) :
    a + (stapA nri' (nals.take (aggregate m a nri nals).1)).length ≤ m + 1 := by
  induction nals generalizing a nri with
  | nil => simpa [stapA] using ha
  | cons nal rest ih =>
    rw [aggregate]
    split
    · next h =>
      have hrest := ih (a + 2 + nal.length) (max nri (nal.headD 0 &&& 0x60)) h.2.2
      rw [List.take_succ_cons, length_stapA_cons]
      omega
    · simpa [stapA] using ha

/-! ## Packets still to be sent -/

/-- The most payload bytes any configuration sends in one datagram. -/
def payloadLimit : Nat := kMaximumStandardUdpPayloadBytes - kFullHeaderSize

/-- What a sender has left of an access unit; see the module header. -/
inductive Remaining : Option (NalUnit × Bytes) → List NalUnit → List PacketPlan → Prop
  | done : Remaining none [] []
  | single {nal : NalUnit} {rest : List NalUnit} {plans : List PacketPlan}
      (hnal : Carriable nal) (hsize : nal.length ≤ payloadLimit)
      (later : Remaining none rest plans) :
      Remaining none (nal :: rest) ({ payload := nal, marker := rest.isEmpty } :: plans)
  | aggregated {nri : UInt8} {group rest : List NalUnit} {plans : List PacketPlan}
      (hne : group ≠ []) (hnri : nri &&& 0x1F = 0)
      (hgroup : ∀ nal ∈ group, Carriable nal ∧ nal.length ≤ 65535)
      (hsize : (stapA nri group).length ≤ payloadLimit)
      (later : Remaining none rest plans) :
      Remaining none (group ++ rest)
        ({ payload := stapA nri group, marker := rest.isEmpty } :: plans)
  | fuStart {header : UInt8} {data more : Bytes} {rest : List NalUnit} {plans : List PacketPlan}
      (hnal : Carriable (header :: (data ++ more))) (hsize : data.length + 2 ≤ payloadLimit)
      (later : Remaining (some (header :: data, more)) rest plans) :
      Remaining none ((header :: (data ++ more)) :: rest)
        ({ payload := fuA header true false data, marker := false } :: plans)
  | fuMiddle {header : UInt8} {sent : NalUnit} {data more : Bytes} {rest : List NalUnit}
      {plans : List PacketPlan} (hsize : data.length + 2 ≤ payloadLimit)
      (later : Remaining (some (sent ++ data, more)) rest plans) :
      Remaining (some (sent, data ++ more)) rest
        ({ payload := fuA header false false data, marker := false } :: plans)
  | fuEnd {header : UInt8} {sent : NalUnit} {data : Bytes} {rest : List NalUnit}
      {plans : List PacketPlan} (hsize : data.length + 2 ≤ payloadLimit)
      (later : Remaining none rest plans) :
      Remaining (some (sent, data)) rest
        ({ payload := fuA header false true data, marker := rest.isEmpty } :: plans)

/-- The units a description still owes the receiver, the one under way first. -/
def owed : Option (NalUnit × Bytes) → List NalUnit → List NalUnit
  | none, rest => rest
  | some (sent, more), rest => (sent ++ more) :: rest

@[simp] theorem owed_none (rest : List NalUnit) : owed none rest = rest := rfl

/-- The packets run out exactly when nothing is left to send. -/
theorem Remaining.isEmpty_eq {cur : Option (NalUnit × Bytes)} {rest : List NalUnit}
    {plans : List PacketPlan} (h : Remaining cur rest plans) :
    plans.isEmpty = (cur.isNone && rest.isEmpty) := by
  cases h with
  | aggregated hne _ _ _ _ => simp [hne]
  | _ => rfl

/-- **The marker is on the last packet and on no other.** -/
theorem Remaining.marker_eq {cur : Option (NalUnit × Bytes)} {rest : List NalUnit}
    {plan : PacketPlan} {plans : List PacketPlan} (h : Remaining cur rest (plan :: plans)) :
    plan.marker = plans.isEmpty := by
  cases h with
  | single _ _ later => simp [later.isEmpty_eq]
  | aggregated _ _ _ _ later => simp [later.isEmpty_eq]
  | fuStart _ _ later => simp [later.isEmpty_eq]
  | fuMiddle _ later => simp [later.isEmpty_eq]
  | fuEnd _ later => simp [later.isEmpty_eq]

theorem Remaining.payload_ne_nil {cur : Option (NalUnit × Bytes)} {rest : List NalUnit}
    {plan : PacketPlan} {plans : List PacketPlan} (h : Remaining cur rest (plan :: plans)) :
    plan.payload ≠ [] := by
  cases h with
  | single hnal _ _ => exact hnal.ne_nil
  | _ => simp [stapA, fuA]

/-- Every later position is described too, and has only units of the list before it. -/
theorem Remaining.drop {cur : Option (NalUnit × Bytes)} {rest : List NalUnit}
    {plans : List PacketPlan} (h : Remaining cur rest plans) (i : Nat) :
    ∃ cur' rest', Remaining cur' rest' (plans.drop i) ∧ rest' <:+ rest := by
  induction i generalizing cur rest plans with
  | zero => exact ⟨cur, rest, h, List.suffix_refl rest⟩
  | succ i ih =>
    have hstep : ∀ {cur' rest' plans'}, Remaining cur' rest' plans' → rest' <:+ rest →
        ∃ cur'' rest'', Remaining cur'' rest'' (plans'.drop i) ∧ rest'' <:+ rest := by
      intro cur' rest' plans' later hsuffix
      obtain ⟨cur'', rest'', hlater, hsuffix'⟩ := ih later
      exact ⟨cur'', rest'', hlater, hsuffix'.trans hsuffix⟩
    cases h with
    | done => exact ⟨none, [], .done, List.suffix_refl []⟩
    | single _ _ later => exact hstep later (List.suffix_cons _ _)
    | aggregated _ _ _ _ later => exact hstep later (List.suffix_append _ _)
    | fuStart _ _ later => exact hstep later (List.suffix_cons _ _)
    | fuMiddle _ later => exact hstep later (List.suffix_refl _)
    | fuEnd _ later => exact hstep later (List.suffix_refl _)

/-! ## `packetize` produces such a description -/

/-- The fragmentation loop behind the first fragment. -/
theorem fuFragments_remaining (maximumFragmentData : Nat) (header : UInt8)
    {rest : List NalUnit} {plans : List PacketPlan} (hmax : 0 < maximumFragmentData)
    (hlimit : maximumFragmentData + 2 ≤ payloadLimit) (later : Remaining none rest plans)
    (fuel : Nat) (sent : NalUnit) (data : Bytes) (hdata : data ≠ [])
    (hfuel : data.length ≤ fuel) :
    Remaining (some (sent, data)) rest
      (fuFragments maximumFragmentData header rest.isEmpty fuel false data ++ plans) := by
  induction fuel generalizing sent data with
  | zero => exact absurd (List.eq_nil_of_length_eq_zero (by omega)) hdata
  | succ fuel ih =>
    have htake : (data.take maximumFragmentData).length + 2 ≤ payloadLimit := by
      rw [List.length_take]; omega
    rw [fuFragments, if_neg hdata]
    by_cases hlast : data.length ≤ maximumFragmentData
    · have hall : data.take maximumFragmentData = data := List.take_of_length_le hlast
      have hnone : data.drop maximumFragmentData = [] := List.drop_eq_nil_of_le hlast
      have hstop : fuFragments maximumFragmentData header rest.isEmpty fuel false [] = [] := by
        cases fuel <;> simp [fuFragments]
      rw [hall] at htake
      simpa [hlast, hall, hnone, hstop] using Remaining.fuEnd htake later
    · have hmore : data.drop maximumFragmentData ≠ [] := by
        simp only [ne_eq, List.drop_eq_nil_iff]; omega
      have hrec := ih (sent ++ data.take maximumFragmentData)
        (data.drop maximumFragmentData) hmore (by rw [List.length_drop]; omega)
      have hstep : Remaining _ rest
          ({ payload := fuA header false false (data.take maximumFragmentData)
             marker := false } :: _) := Remaining.fuMiddle htake hrec
      rw [List.take_append_drop] at hstep
      simpa [hlast] using hstep

/-- A unit too long for one packet: its fragments from the first on. -/
theorem fuFragments_remaining_start {m : Nat} {header : UInt8} {data : Bytes}
    {rest : List NalUnit} {plans : List PacketPlan} (hm : 36 ≤ m) (hlimit : m ≤ payloadLimit)
    (hnal : Carriable (header :: data)) (hlong : ¬ (header :: data).length ≤ m)
    (later : Remaining none rest plans) :
    Remaining none ((header :: data) :: rest)
      (fuFragments (m - 2) header rest.isEmpty (header :: data).length true data ++ plans) := by
  simp only [List.length_cons] at hlong ⊢
  have hdata : data ≠ [] := by rintro rfl; simp at hlong; omega
  have hnotlast : ¬ data.length ≤ m - 2 := by omega
  have hmore : data.drop (m - 2) ≠ [] := by
    simp only [ne_eq, List.drop_eq_nil_iff]; omega
  have hrec := fuFragments_remaining (m - 2) header (by omega) (by omega) later data.length
    (header :: data.take (m - 2)) (data.drop (m - 2)) hmore (by rw [List.length_drop]; omega)
  have hsplit : data.take (m - 2) ++ data.drop (m - 2) = data := List.take_append_drop _ _
  have hstep : Remaining none ((header :: (data.take (m - 2) ++ data.drop (m - 2))) :: rest)
      ({ payload := fuA header true false (data.take (m - 2)), marker := false } :: _) :=
    Remaining.fuStart (by rwa [hsplit]) (by rw [List.length_take]; omega) hrec
  rw [hsplit] at hstep
  rw [fuFragments, if_neg hdata]
  simpa [hnotlast] using hstep

/-- **`packetize` sends exactly the units it is given**, in a form each packet kind of the
receiver can be checked against. -/
theorem packetizeLoop_remaining {m : Nat} (hm : 36 ≤ m) (hlimit : m ≤ payloadLimit)
    (nals : List NalUnit) (hnals : ∀ nal ∈ nals, Carriable nal) :
    Remaining none nals (packetizeLoop m 0 nals) := by
  induction hlen : nals.length using Nat.strong_induction_on generalizing nals with
  | _ n ih =>
    match nals with
    | [] => simpa using Remaining.done
    | [] :: rest => exact absurd rfl (hnals [] (by simp)).ne_nil
    | (header :: data) :: rest =>
      have hrest : Remaining none rest (packetizeLoop m 0 rest) :=
        ih rest.length (by rw [← hlen]; simp) rest
          (fun nal h => hnals nal (List.mem_cons_of_mem _ h)) rfl
      rw [packetizeLoop_cons]
      split
      · next hcount =>
        have hle := aggregate_count_le m 1 0 ((header :: data) :: rest)
        have htaken := aggregate_taken m 1 0 ((header :: data) :: rest)
        have hnri := aggregate_nri m 1 0 ((header :: data) :: rest) (by simp)
        have hbudget := length_stapA_aggregate m 1 0
          (aggregate m 1 0 ((header :: data) :: rest)).2 ((header :: data) :: rest) (by omega)
        generalize aggregate m 1 0 ((header :: data) :: rest) = found at *
        generalize hunits : (header :: data) :: rest = units at *
        have hlater : Remaining none (units.drop found.1)
            (packetizeLoop m 0 (units.drop found.1)) :=
          ih (units.drop found.1).length (by rw [List.length_drop]; omega) _
            (fun nal h => hnals nal (List.mem_of_mem_drop h)) rfl
        have hgroup : units.take found.1 ≠ [] := by
          rw [ne_eq, List.take_eq_nil_iff, ← List.length_eq_zero_iff]
          omega
        have hstep := Remaining.aggregated hgroup hnri
          (fun nal h => ⟨hnals nal (List.mem_of_mem_take h), (htaken nal h).2⟩) (by omega) hlater
        have hmarker : (units.drop found.1).isEmpty = decide (found.1 = units.length) := by
          rw [Bool.eq_iff_iff, List.isEmpty_iff, List.drop_eq_nil_iff, decide_eq_true_eq]
          omega
        rwa [List.take_append_drop, hmarker] at hstep
      · split
        · next hshort =>
          exact .single (hnals _ (by simp)) (by omega) hrest
        · next hlong =>
          exact fuFragments_remaining_start hm hlimit (hnals _ (by simp)) hlong hrest

/-! ## Where the packets of a unit begin -/

/-- An FU-A payload without the start bit: useless without the packet before it. -/
def continuesFragment (payload : Bytes) : Bool :=
  payload.headD 0 &&& 0x1F = 28 ∧ payload.tail.headD 0 &&& 0x80 = 0

theorem continuesFragment_fuA (header : UInt8) (first last : Bool) (data : Bytes) :
    continuesFragment (fuA header first last data) = !first := by
  have hbits : ∀ (h : UInt8) (first last : Bool),
      ((h &&& 0xE0) ||| 28) &&& 0x1F = 28
        ∧ decide (((h &&& 0x1F) ||| (if first then 0x80 else 0)
            ||| (if last then 0x40 else 0)) &&& 0x80 = 0) = !first := by
    decide +kernel
  obtain ⟨htype, hstart⟩ := hbits header first last
  simp only [continuesFragment, fuA, List.headD_cons, List.tail_cons, htype, true_and, hstart]

/-- The type bits of an aggregation packet. -/
theorem stapA_type {nri : UInt8} (h : nri &&& 0x1F = 0) : (nri ||| 24) &&& 0x1F = 24 := by
  have hbits : ∀ n : UInt8, n &&& 0x1F = 0 → (n ||| 24) &&& 0x1F = 24 := by decide +kernel
  exact hbits nri h

/-- A sender between two units never continues a fragment, one inside a unit always does. -/
theorem Remaining.continuesFragment_eq {cur : Option (NalUnit × Bytes)} {rest : List NalUnit}
    {plan : PacketPlan} {plans : List PacketPlan} (h : Remaining cur rest (plan :: plans)) :
    continuesFragment plan.payload = cur.isSome := by
  cases h with
  | @single nal _ _ hnal _ _ =>
    have hne : ∀ t : UInt8, 1 ≤ t ∧ t ≤ 23 → t ≠ 28 := by decide +kernel
    cases nal with
    | nil => exact absurd rfl hnal.ne_nil
    | cons header data =>
      have : header &&& 0x1F ≠ 28 := hne _ hnal
      simp [continuesFragment, this]
  | aggregated _ hnri _ _ _ => simp [continuesFragment, stapA, stapA_type hnri]
  | fuStart _ _ _ => simp [continuesFragment_fuA]
  | fuMiddle _ _ => simp [continuesFragment_fuA]
  | fuEnd _ _ => simp [continuesFragment_fuA]

theorem fuFragments_continue (maximumFragmentData : Nat) (header : UInt8) (finalNal : Bool)
    (fuel : Nat) (data : Bytes) :
    ∀ plan ∈ fuFragments maximumFragmentData header finalNal fuel false data,
      continuesFragment plan.payload = true := by
  induction fuel generalizing data with
  | zero => simp [fuFragments]
  | succ fuel ih =>
    rw [fuFragments]
    split
    · simp
    · intro plan hplan
      rcases List.mem_cons.mp hplan with rfl | hplan
      · simp [continuesFragment_fuA]
      · exact ih _ plan hplan

/-- Behind the first fragment of a unit, every fragment continues one. -/
theorem fuFragments_tail_continue (maximumFragmentData : Nat) (header : UInt8)
    (finalNal : Bool) (fuel : Nat) (data : Bytes) :
    ∀ plan ∈ (fuFragments maximumFragmentData header finalNal fuel true data).tail,
      continuesFragment plan.payload = true := by
  cases fuel with
  | zero => simp [fuFragments]
  | succ fuel =>
    rw [fuFragments]
    split
    · simp
    · exact fuFragments_continue _ _ _ fuel _

/-- A packet behind the first of a run of fragments either continues it or lies behind it. -/
theorem drop_of_not_continuing {fragments plans : List PacketPlan} {i : Nat}
    (htail : ∀ plan ∈ fragments.tail, continuesFragment plan.payload = true)
    (hi : ∀ plan ∈ ((fragments ++ plans).drop (i + 1)).head?,
      continuesFragment plan.payload = false) :
    (fragments ++ plans).drop (i + 1) = plans.drop (i + 1 - fragments.length) := by
  by_cases hin : i + 1 < fragments.length
  · have hmem : fragments[i + 1] ∈ fragments.tail := by
      rw [← List.drop_one]
      exact List.mem_drop_iff_getElem.mpr ⟨i, by omega, by simp [Nat.add_comm]⟩
    have hhead : fragments[i + 1] ∈ ((fragments ++ plans).drop (i + 1)).head? := by
      rw [List.head?_drop, List.getElem?_append_left hin]
      simp
    exact absurd (htail _ hmem) (by rw [hi _ hhead]; simp)
  · rw [List.drop_append, List.drop_eq_nil_of_le (by omega), List.nil_append]

/-- **Restarting points.** The packets from any packet that does not continue a fragment are
the packetization of a tail of the unit list. -/
theorem packetizeLoop_drop (m : Nat) (nals : List NalUnit) (i : Nat)
    (hi : ∀ plan ∈ ((packetizeLoop m 0 nals).drop i).head?,
      continuesFragment plan.payload = false) :
    ∃ k, (packetizeLoop m 0 nals).drop i = packetizeLoop m 0 (nals.drop k) := by
  induction hlen : nals.length using Nat.strong_induction_on generalizing nals i with
  | _ n ih =>
    match nals, i with
    | [], i => exact ⟨0, by simp⟩
    | nals, 0 => exact ⟨0, rfl⟩
    | [] :: rest, i + 1 =>
      have hskip : packetizeLoop m 0 ([] :: rest) = packetizeLoop m 0 rest := by
        rw [packetizeLoop]
      rw [hskip] at hi ⊢
      obtain ⟨k, hk⟩ := ih rest.length (by rw [← hlen]; simp) rest (i + 1) hi rfl
      exact ⟨k + 1, hk⟩
    | (header :: data) :: rest, i + 1 =>
      rw [packetizeLoop_cons] at hi ⊢
      split at hi
      · next hcount =>
        rw [if_pos hcount]
        generalize aggregate m 1 0 ((header :: data) :: rest) = found at *
        rw [List.drop_succ_cons] at hi ⊢
        have hless : (((header :: data) :: rest).drop found.1).length < n := by
          rw [← hlen, List.length_drop, List.length_cons]; omega
        obtain ⟨k, hk⟩ := ih _ hless _ i hi rfl
        exact ⟨found.1 + k, by rw [hk, List.drop_drop]⟩
      · next hcount =>
        rw [if_neg hcount]
        have hless : rest.length < n := by rw [← hlen]; simp
        split at hi
        · next hshort =>
          rw [if_pos hshort]
          obtain ⟨k, hk⟩ := ih _ hless rest i hi rfl
          exact ⟨k + 1, hk⟩
        · next hlong =>
          rw [if_neg hlong]
          have htail := fuFragments_tail_continue (m - 2) header rest.isEmpty
            (header :: data).length data
          have hdrop := drop_of_not_continuing htail hi
          rw [hdrop] at hi ⊢
          obtain ⟨k, hk⟩ := ih _ hless rest _ hi rfl
          exact ⟨k + 1, hk⟩

/-! ## The datagrams -/

theorem RtpPacketizer.makePackets_length (p : RtpPacketizer) (timestamp : UInt32)
    (captureTimeNs : UInt64) (plans : List PacketPlan) :
    (p.makePackets timestamp captureTimeNs plans).1.length = plans.length := by
  induction plans generalizing p with
  | nil => rfl
  | cons plan plans ih => simp [RtpPacketizer.makePackets, ih]

/-- The datagram of a payload: its place in the list is its offset from the first sequence
number. -/
theorem RtpPacketizer.makePackets_getElem (p : RtpPacketizer) (timestamp : UInt32)
    (captureTimeNs : UInt64) (plans : List PacketPlan) (i : Nat) (hi : i < plans.length)
    (hi' : i < (p.makePackets timestamp captureTimeNs plans).1.length) :
    (p.makePackets timestamp captureTimeNs plans).1[i]
      = packetBytes
          { payloadType := p.payloadType, marker := plans[i].marker
            sequence := p.sequence + UInt16.ofNat i, timestamp, ssrc := p.ssrc, captureTimeNs }
          plans[i].payload := by
  induction plans generalizing p i with
  | nil => simp at hi
  | cons plan plans ih =>
    cases i with
    | zero => simp [RtpPacketizer.makePackets, RtpPacketizer.makePacket]
    | succ i =>
      have hnext := ih { p with sequence := p.sequence + 1 } i (by simpa using hi)
        (by rw [RtpPacketizer.makePackets_length]; simpa using hi)
      have hshift : p.sequence + 1 + UInt16.ofNat i = p.sequence + UInt16.ofNat (i + 1) := by
        rw [UInt16.ofNat_add, UInt16.add_comm (UInt16.ofNat i), UInt16.add_assoc]
        rfl
      simpa [RtpPacketizer.makePackets, RtpPacketizer.makePacket, hshift] using hnext

/-- The sequence number is all that `packetize` leaves behind. -/
theorem RtpPacketizer.makePackets_snd (p : RtpPacketizer) (timestamp : UInt32)
    (captureTimeNs : UInt64) (plans : List PacketPlan) :
    (p.makePackets timestamp captureTimeNs plans).2
      = { p with sequence := p.sequence + UInt16.ofNat plans.length } := by
  induction plans generalizing p with
  | nil => simp [RtpPacketizer.makePackets]
  | cons plan plans ih =>
    simp only [RtpPacketizer.makePackets, RtpPacketizer.makePacket, ih, List.length_cons,
      UInt16.ofNat_add]
    congr 1
    rw [UInt16.add_comm (UInt16.ofNat plans.length), UInt16.add_assoc]
    rfl

theorem RtpPacketizer.maximumPayload_ge (p : RtpPacketizer) : 36 ≤ p.maximumPayload := by
  have := p.minimum_le
  simp only [RtpPacketizer.maximumPayload, kFullHeaderSize]
  omega

theorem RtpPacketizer.maximumPayload_le (p : RtpPacketizer) :
    p.maximumPayload ≤ payloadLimit := by
  have := p.le_maximum
  simp only [RtpPacketizer.maximumPayload, payloadLimit]
  omega

end Ipmx.Rtp
