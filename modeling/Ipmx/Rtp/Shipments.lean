/-
Ipmx.Rtp.Shipments — what `packetize` puts on the wire for any list of
units, empty ones and units of any type included.

`Sends` describes the shipments of a walk, each a payload with its marker and
the units it carries whole or in part; its constructors are the rounds of the
loop. An aggregation packet is read back by `Tiles`, the fragments of a unit by
`Fragments`, both in terms of the bytes alone. `packetizeLoop_sends` shows that
the loop sends in this way, an aggregation packet for each of the `runs` of two
units or more, and `Sends.unique` that the bytes leave no choice.
-/
import Ipmx.Rtp.PacketizerTheorems

namespace Ipmx.Rtp

open H264

/-! ## Payloads -/

/-- Units in a row, each behind its 16-bit size. -/
inductive Tiles : Bytes → List NalUnit → Prop
  | nil : Tiles [] []
  | cons {high low : UInt8} {nal : NalUnit} {rest : Bytes} {group : List NalUnit}
      (hsize : high.toNat * 256 + low.toNat = nal.length) (later : Tiles rest group) :
      Tiles (high :: low :: (nal ++ rest)) (nal :: group)

/-- The payload of an aggregation packet of these units. -/
def Aggregates (payload : Bytes) (group : List NalUnit) : Prop :=
  ∃ indicator body, payload = indicator :: body ∧ indicator &&& 0x1F = 24 ∧ Tiles body group

/-- The payloads that carry one unit in fragments. -/
structure Fragments (nal : NalUnit) (payloads : List Bytes) : Prop where
  two_le : 2 ≤ payloads.length
  data_ne_nil : ∀ payload ∈ payloads, payload.drop 2 ≠ []
  indicator : ∀ payload ∈ payloads, payload.head? = some ((nal.headD 0 &&& 0xE0) ||| 28)
  type : ∀ payload ∈ payloads, payload.tail.headD 0 &&& 0x1F = h264NalType nal
  start : ∀ i (h : i < payloads.length), payloads[i].tail.headD 0 &&& 0x80 ≠ 0 ↔ i = 0
  stop : ∀ i (h : i < payloads.length),
    payloads[i].tail.headD 0 &&& 0x40 ≠ 0 ↔ i + 1 = payloads.length
  data : payloads.flatMap (·.drop 2) = nal.tail

/-! ## Shipments -/

/-- A packet with the units it carries, whole or in part. -/
structure Shipment where
  plan : PacketPlan
  carried : List NalUnit
deriving DecidableEq, Repr

/-- One round of the walk, for this payload budget: the units in front of it, what it sends,
and the units behind it. -/
inductive Round (m : Nat) : List NalUnit → List Shipment → List NalUnit → Prop
  | aggregated {group rest : List NalUnit} {payload : Bytes} (htwo : 2 ≤ group.length)
      (hne : ∀ nal ∈ group, nal ≠ []) (hpayload : Aggregates payload group)
      (hsize : payload.length ≤ m) :
      Round m (group ++ rest)
        [{ plan := { payload, marker := rest.isEmpty }, carried := group }] rest
  | single {nal : NalUnit} {rest : List NalUnit} (hne : nal ≠ []) (hsize : nal.length ≤ m) :
      Round m (nal :: rest)
        [{ plan := { payload := nal, marker := rest.isEmpty }, carried := [nal] }] rest
  | fragmented {nal : NalUnit} {rest : List NalUnit} {fragments : List PacketPlan}
      (hlong : m < nal.length) (hfragments : Fragments nal (fragments.map (·.payload)))
      (hsize : ∀ fragment ∈ fragments, fragment.payload.length ≤ m)
      (hmarker : ∀ i (h : i < fragments.length),
        fragments[i].marker = (rest.isEmpty && decide (i + 1 = fragments.length))) :
      Round m (nal :: rest) (fragments.map fun plan => { plan, carried := [nal] }) rest

/-- The shipments of a list of units: round after round, empty units left out. -/
inductive Sends (m : Nat) : List NalUnit → List Shipment → Prop
  | done : Sends m [] []
  | skipped {rest : List NalUnit} {shipments : List Shipment} (later : Sends m rest shipments) :
      Sends m ([] :: rest) shipments
  | round {nals rest : List NalUnit} {sent shipments : List Shipment}
      (now : Round m nals sent rest) (later : Sends m rest shipments) :
      Sends m nals (sent ++ shipments)

/-! ## The fragmentation loop -/

/-- The fragments of a unit with this header, one for each part of its data. -/
def fragmentPlans (header : UInt8) (finalNal : Bool) : Bool → List Bytes → List PacketPlan
  | _, [] => []
  | first, part :: parts =>
    { payload := fuA header first parts.isEmpty part, marker := finalNal && parts.isEmpty }
      :: fragmentPlans header finalNal false parts

/-- The loop cuts the data into parts that are not empty and fit. -/
theorem fuFragments_parts {maximumFragmentData : Nat} (hmax : 0 < maximumFragmentData)
    (header : UInt8) (finalNal : Bool) (fuel : Nat) (first : Bool) (data : Bytes)
    (hfuel : data.length ≤ fuel) :
    ∃ parts : List Bytes, parts.flatten = data
      ∧ (∀ part ∈ parts, part ≠ [] ∧ part.length ≤ maximumFragmentData)
      ∧ fuFragments maximumFragmentData header finalNal fuel first data
        = fragmentPlans header finalNal first parts := by
  induction fuel generalizing first data with
  | zero =>
    obtain rfl := List.eq_nil_of_length_eq_zero (Nat.le_zero.mp hfuel)
    exact ⟨[], rfl, by simp, rfl⟩
  | succ fuel ih =>
    rw [fuFragments]
    split
    · next hdata =>
      subst hdata
      exact ⟨[], rfl, by simp, rfl⟩
    · next hdata =>
      have hlength : 0 < data.length := List.length_pos_iff.mpr hdata
      obtain ⟨parts, hflat, hparts, hrest⟩ := ih false (data.drop maximumFragmentData)
        (by rw [List.length_drop]; omega)
      refine ⟨data.take maximumFragmentData :: parts, ?_, ?_, ?_⟩
      · rw [List.flatten_cons, hflat, List.take_append_drop]
      · intro part hmem
        rcases List.mem_cons.mp hmem with rfl | hmem
        · constructor
          · rw [ne_eq, List.take_eq_nil_iff]
            exact not_or.mpr ⟨by omega, hdata⟩
          · exact List.length_take_le _ _
        · exact hparts part hmem
      · -- the last part is the one nothing is left behind
        have hlast : decide (data.length ≤ maximumFragmentData) = parts.isEmpty := by
          rw [Bool.eq_iff_iff, decide_eq_true_eq, List.isEmpty_iff, ← List.drop_eq_nil_iff, ← hflat,
            List.flatten_eq_nil_iff]
          constructor
          · intro hall
            cases parts with
            | nil => rfl
            | cons part parts => exact absurd (hall part (by simp)) (hparts part (by simp)).1
          · rintro rfl
            simp
        rw [fragmentPlans, ← hrest]
        simp only [hlast]

theorem length_fragmentPlans (header : UInt8) (finalNal first : Bool) (parts : List Bytes) :
    (fragmentPlans header finalNal first parts).length = parts.length := by
  induction parts generalizing first with
  | nil => rfl
  | cons part parts ih => simp [fragmentPlans, ih]

/-- The fragment of each part. -/
theorem getElem_fragmentPlans (header : UInt8) (finalNal first : Bool) (parts : List Bytes)
    (i : Nat) (h : i < parts.length)
    (h' : i < (fragmentPlans header finalNal first parts).length) :
    (fragmentPlans header finalNal first parts)[i]
      = { payload := fuA header (first && decide (i = 0)) (decide (i + 1 = parts.length)) parts[i]
          marker := finalNal && decide (i + 1 = parts.length) } := by
  induction parts generalizing first i with
  | nil => simp at h
  | cons part parts ih =>
    cases i with
    | zero =>
      have hempty : parts.isEmpty = decide (0 + 1 = (part :: parts).length) := by
        cases parts <;> simp
      simp [fragmentPlans, hempty]
    | succ i =>
      have hnext := ih false i (by simpa using h) (by simpa [length_fragmentPlans] using h)
      simpa [fragmentPlans] using hnext

theorem flatMap_drop_fragmentPlans (header : UInt8) (finalNal first : Bool) (parts : List Bytes) :
    (fragmentPlans header finalNal first parts).flatMap (·.payload.drop 2) = parts.flatten := by
  induction parts generalizing first with
  | nil => rfl
  | cons part parts ih => simp [fragmentPlans, fuA, ih]

/-- The two header bytes of a fragment, bit by bit. -/
theorem fuA_bits (header : UInt8) (first last : Bool) (data : Bytes) :
    (fuA header first last data).tail.headD 0 &&& 0x1F = header &&& 0x1F
      ∧ ((fuA header first last data).tail.headD 0 &&& 0x80 ≠ 0 ↔ first = true)
      ∧ ((fuA header first last data).tail.headD 0 &&& 0x40 ≠ 0 ↔ last = true) := by
  have hbits : ∀ (h : UInt8) (first last : Bool),
      ((h &&& 0x1F) ||| (if first then 0x80 else 0) ||| (if last then 0x40 else 0)) &&& 0x1F
          = h &&& 0x1F
        ∧ (((h &&& 0x1F) ||| (if first then 0x80 else 0) ||| (if last then 0x40 else 0)) &&& 0x80
            ≠ 0 ↔ first = true)
        ∧ (((h &&& 0x1F) ||| (if first then 0x80 else 0) ||| (if last then 0x40 else 0)) &&& 0x40
            ≠ 0 ↔ last = true) := by decide +kernel
  exact hbits header first last

theorem exists_fuA_of_mem {header : UInt8} {finalNal first : Bool} {parts : List Bytes}
    {plan : PacketPlan} (h : plan ∈ fragmentPlans header finalNal first parts) :
    ∃ first' last, ∃ part ∈ parts, plan.payload = fuA header first' last part := by
  obtain ⟨i, hi, rfl⟩ := List.getElem_of_mem h
  rw [length_fragmentPlans] at hi
  exact ⟨_, _, parts[i], List.getElem_mem hi, by rw [getElem_fragmentPlans _ _ _ _ _ hi]⟩

/-- Data that is longer than a part is cut at least in two. -/
theorem two_le_parts {size : Nat} {parts : List Bytes} (hparts : ∀ part ∈ parts, part.length ≤ size)
    (hlong : size < parts.flatten.length) : 2 ≤ parts.length := by
  rcases parts with _ | ⟨part, _ | ⟨second, parts⟩⟩
  · simp at hlong
  · have hsize := hparts part (by simp)
    simp only [List.flatten_cons, List.flatten_nil, List.append_nil] at hlong
    omega
  · simp

/-- The payloads of the parts of a unit are its fragments. -/
theorem fragments_fragmentPlans (header : UInt8) (finalNal : Bool) {parts : List Bytes}
    (htwo : 2 ≤ parts.length) (hparts : ∀ part ∈ parts, part ≠ []) :
    Fragments (header :: parts.flatten)
      ((fragmentPlans header finalNal true parts).map (·.payload)) := by
  have hlength := length_fragmentPlans header finalNal true parts
  have hpayload : ∀ payload ∈ (fragmentPlans header finalNal true parts).map (·.payload),
      ∃ first last, ∃ part ∈ parts, payload = fuA header first last part := by
    intro payload hmem
    obtain ⟨plan, hplan, rfl⟩ := List.mem_map.mp hmem
    exact exists_fuA_of_mem hplan
  constructor
  · simpa [hlength] using htwo
  · intro payload hmem
    obtain ⟨first, last, part, hpart, rfl⟩ := hpayload payload hmem
    simpa [fuA] using hparts part hpart
  · intro payload hmem
    obtain ⟨first, last, part, _, rfl⟩ := hpayload payload hmem
    simp [fuA]
  · intro payload hmem
    obtain ⟨first, last, part, _, rfl⟩ := hpayload payload hmem
    exact (fuA_bits header first last part).1
  · intro i hi
    rw [List.length_map, hlength] at hi
    rw [List.getElem_map, getElem_fragmentPlans _ _ _ _ _ hi]
    exact (fuA_bits header _ _ parts[i]).2.1.trans (by simp)
  · intro i hi
    rw [List.length_map, hlength] at hi
    rw [List.getElem_map, getElem_fragmentPlans _ _ _ _ _ hi, List.length_map, hlength]
    exact (fuA_bits header _ _ parts[i]).2.2.trans (by simp)
  · rw [List.flatMap_map]
    exact flatMap_drop_fragmentPlans header finalNal true parts

/-- **The fragments of a unit that is too long.** -/
theorem fuFragments_fragments {m : Nat} (hm : 36 ≤ m) (header : UInt8) (data : Bytes)
    (finalNal : Bool) (hlong : m < (header :: data).length) :
    ∃ fragments, fuFragments (m - 2) header finalNal (header :: data).length true data = fragments
      ∧ Fragments (header :: data) (fragments.map (·.payload))
      ∧ (∀ fragment ∈ fragments, fragment.payload.length ≤ m)
      ∧ ∀ i (h : i < fragments.length),
          fragments[i].marker = (finalNal && decide (i + 1 = fragments.length)) := by
  obtain ⟨parts, rfl, hparts, hplans⟩ := fuFragments_parts (by omega : 0 < m - 2) header finalNal
    (header :: data).length true data (by simp)
  have htwo : 2 ≤ parts.length := by
    rw [List.length_cons] at hlong
    exact two_le_parts (fun part hpart => (hparts part hpart).2) (by omega)
  refine ⟨_, hplans, fragments_fragmentPlans header finalNal htwo fun part hpart =>
    (hparts part hpart).1, ?_, ?_⟩
  · intro fragment hmem
    obtain ⟨first, last, part, hpart, hpayload⟩ := exists_fuA_of_mem hmem
    have hsize := (hparts part hpart).2
    simp only [hpayload, fuA, List.length_cons]
    omega
  · intro i hi
    rw [length_fragmentPlans] at hi
    rw [getElem_fragmentPlans _ _ _ _ _ hi, length_fragmentPlans]

/-! ## The aggregation round -/

/-- The units from the front that fit into this many bytes together, each with its size. -/
def fittingRun : Nat → List NalUnit → List NalUnit
  | _, [] => []
  | budget, nal :: rest =>
    if nal ≠ [] ∧ nal.length ≤ 65535 ∧ 2 + nal.length ≤ budget then
      nal :: fittingRun (budget - (2 + nal.length)) rest
    else
      []

/-- The lookahead takes what fits behind the indicator. -/
theorem take_aggregate (m a : Nat) (nri : UInt8) (nals : List NalUnit) (ha : a ≤ m) :
    nals.take (aggregate m a nri nals).1 = fittingRun (m - a) nals := by
  induction nals generalizing a nri with
  | nil => simp [fittingRun]
  | cons nal rest ih =>
    by_cases h : nal ≠ [] ∧ nal.length ≤ 65535 ∧ a + 2 + nal.length ≤ m
    · have hbudget : m - a - (2 + nal.length) = m - (a + 2 + nal.length) := by omega
      rw [aggregate, if_pos h, fittingRun, if_pos ⟨h.1, h.2.1, by omega⟩, List.take_succ_cons,
        ih _ _ h.2.2, hbudget]
    · have h' : ¬ (nal ≠ [] ∧ nal.length ≤ 65535 ∧ 2 + nal.length ≤ m - a) := by
        rintro ⟨hne, hsize, hfits⟩
        exact h ⟨hne, hsize, by omega⟩
      rw [aggregate, if_neg h, fittingRun, if_neg h', List.take_zero]

theorem length_fittingRun (m : Nat) (nals : List NalUnit) (hm : 1 ≤ m) :
    (fittingRun (m - 1) nals).length = (aggregate m 1 0 nals).1 := by
  rw [← take_aggregate m 1 0 nals hm, List.length_take]
  exact Nat.min_eq_left (aggregate_count_le m 1 0 nals)

/-- A list of units cut into runs from the left, each as long as it fits into one aggregation
packet. The first argument counts the units of the last run still to be left out. -/
def runs (m : Nat) : Nat → List NalUnit → List (List NalUnit)
  | _, [] => []
  | skip + 1, _ :: rest => runs m skip rest
  | 0, nal :: rest =>
    fittingRun (m - 1) (nal :: rest)
      :: runs m ((fittingRun (m - 1) (nal :: rest)).length - 1) rest

theorem runs_skip (m skip : Nat) (nals : List NalUnit) :
    runs m skip nals = runs m 0 (nals.drop skip) := by
  induction nals generalizing skip with
  | nil => simp [runs]
  | cons nal rest ih =>
    cases skip with
    | zero => simp
    | succ skip => rw [runs, ih, List.drop_succ_cons]

/-- The first run is what the lookahead takes. -/
theorem runs_cons {m : Nat} (hm : 1 ≤ m) (nal : NalUnit) (rest : List NalUnit) :
    runs m 0 (nal :: rest)
      = (nal :: rest).take (aggregate m 1 0 (nal :: rest)).1
        :: runs m 0 (rest.drop ((aggregate m 1 0 (nal :: rest)).1 - 1)) := by
  rw [runs, runs_skip, length_fittingRun m _ hm, take_aggregate m 1 0 _ hm]

/-- A group written behind its indicator is read back. -/
theorem aggregates_stapA {nri : UInt8} (hnri : nri &&& 0x1F = 0) {group : List NalUnit}
    (hgroup : ∀ nal ∈ group, nal.length ≤ 65535) : Aggregates (stapA nri group) group := by
  refine ⟨nri ||| 24, _, rfl, stapA_type hnri, ?_⟩
  induction group with
  | nil => exact .nil
  | cons nal group ih =>
    have hlength : nal.length ≤ 65535 := hgroup nal (by simp)
    have hsize : (UInt8.ofNat (nal.length >>> 8)).toNat * 256 + (UInt8.ofNat nal.length).toNat
        = nal.length := by
      simp only [UInt8.toNat_ofNat', Nat.shiftRight_eq_div_pow]
      omega
    have hlater := ih fun nal hmem => hgroup nal (List.mem_cons_of_mem _ hmem)
    simpa using Tiles.cons hsize hlater

/-- The round that the source makes where the lookahead takes two units or more. -/
theorem aggregated_round {m : Nat} (hm : 1 ≤ m) {units : List NalUnit}
    (hcount : 1 < (aggregate m 1 0 units).1) :
    Round m units
      [{ plan :=
          { payload := stapA (aggregate m 1 0 units).2 (units.take (aggregate m 1 0 units).1)
            marker := (aggregate m 1 0 units).1 = units.length }
         carried := units.take (aggregate m 1 0 units).1 }]
      (units.drop (aggregate m 1 0 units).1) := by
  have htaken := aggregate_taken m 1 0 units
  have hnri := aggregate_nri m 1 0 units (by simp)
  have hbudget := length_stapA_aggregate m 1 0 (aggregate m 1 0 units).2 units hm
  have hle := aggregate_count_le m 1 0 units
  generalize aggregate m 1 0 units = found at *
  have hround : Round m (units.take found.1 ++ units.drop found.1) _ _ :=
    .aggregated (by rw [List.length_take]; omega) (fun nal hnal => (htaken nal hnal).1)
      (aggregates_stapA hnri fun nal hnal => (htaken nal hnal).2) (by omega)
  have hmarker : (units.drop found.1).isEmpty = decide (found.1 = units.length) := by
    rw [Bool.eq_iff_iff, List.isEmpty_iff, List.drop_eq_nil_iff, decide_eq_true_eq]
    omega
  rwa [List.take_append_drop, hmarker] at hround

/-! ## The walk -/

/-- The shipments of the walk over a list of units. What is true of every list of at most one
unit is true of all they carry together exactly if it is true of the runs. -/
structure Walks (m : Nat) (nals : List NalUnit) (shipments : List Shipment) : Prop where
  plans : shipments.map (·.plan) = packetizeLoop m 0 nals
  sends : Sends m nals shipments
  runs : ∀ P : List NalUnit → Prop, (∀ units : List NalUnit, units.length ≤ 1 → P units) →
    ((∀ s ∈ shipments, P s.carried) ↔ ∀ run ∈ runs m 0 nals, P run)

theorem Walks.skip {m : Nat} {rest : List NalUnit} {shipments : List Shipment}
    (h : Walks m rest shipments) : Walks m ([] :: rest) shipments where
  plans := by rw [packetizeLoop, h.plans]
  sends := .skipped h.sends
  runs := by
    intro P hP
    rw [h.runs P hP]
    simp [Rtp.runs, fittingRun, hP]

/-- One round in front of a walk: its packets carry the run, or units that are alone. -/
theorem Walks.round {m : Nat} {nals rest run : List NalUnit} {sent shipments : List Shipment}
    (hround : Round m nals sent rest)
    (hplans : packetizeLoop m 0 nals = sent.map (·.plan) ++ packetizeLoop m 0 rest)
    (hruns : Rtp.runs m 0 nals = run :: Rtp.runs m 0 rest)
    (hrun : ∀ P : List NalUnit → Prop, (∀ units : List NalUnit, units.length ≤ 1 → P units) →
      ((∀ s ∈ sent, P s.carried) ↔ P run))
    (h : Walks m rest shipments) : Walks m nals (sent ++ shipments) where
  plans := by rw [List.map_append, h.plans, hplans]
  sends := .round hround h.sends
  runs := by
    intro P hP
    rw [hruns, List.forall_mem_append, List.forall_mem_cons, hrun P hP, h.runs P hP]

/-- A round that the lookahead leaves to one unit. -/
theorem runs_alone {m : Nat} (hm : 1 ≤ m) {nal : NalUnit} {rest : List NalUnit}
    (hcount : ¬ (aggregate m 1 0 (nal :: rest)).1 > 1) :
    ∃ run : List NalUnit, run.length ≤ 1 ∧ runs m 0 (nal :: rest) = run :: runs m 0 rest := by
  refine ⟨(nal :: rest).take (aggregate m 1 0 (nal :: rest)).1, ?_, ?_⟩
  · rw [List.length_take]
    omega
  · rw [runs_cons hm, Nat.sub_eq_zero_of_le (by omega), List.drop_zero]

/-- **`packetize` sends the units it is given**, whatever they are. -/
theorem packetizeLoop_sends {m : Nat} (hm : 36 ≤ m) (nals : List NalUnit) :
    ∃ shipments, Walks m nals shipments := by
  induction hlen : nals.length using Nat.strong_induction_on generalizing nals with
  | _ n ih =>
    rcases nals with _ | ⟨_ | ⟨header, data⟩, rest⟩
    · exact ⟨[], by simp, .done, by simp [runs]⟩
    · obtain ⟨later, hlater⟩ := ih rest.length (by rw [← hlen]; simp) rest rfl
      exact ⟨later, hlater.skip⟩
    · have hplans := packetizeLoop_cons m header data rest
      split at hplans
      · next hcount =>
        have hround := aggregated_round (m := m) (by omega) hcount
        have hruns := runs_cons (m := m) (by omega) (header :: data) rest
        have hbehind : rest.drop ((aggregate m 1 0 ((header :: data) :: rest)).1 - 1)
            = ((header :: data) :: rest).drop (aggregate m 1 0 ((header :: data) :: rest)).1 := by
          rw [← List.drop_succ_cons (a := header :: data)]
          congr 1
          omega
        rw [hbehind] at hruns
        generalize aggregate m 1 0 ((header :: data) :: rest) = found at *
        have hless : (((header :: data) :: rest).drop found.1).length < n := by
          rw [← hlen, List.length_drop, List.length_cons]
          omega
        obtain ⟨later, hlater⟩ := ih _ hless _ rfl
        exact ⟨_, .round hround hplans hruns (fun P _ => by simp) hlater⟩
      · next hcount =>
        obtain ⟨run, hshort, hruns⟩ := runs_alone (by omega) hcount
        obtain ⟨later, hlater⟩ := ih rest.length (by rw [← hlen]; simp) rest rfl
        split at hplans
        · next hfits =>
          refine ⟨_, .round (.single (by simp) hfits) hplans hruns ?_ hlater⟩
          intro P hP
          simp [hP run hshort, hP [header :: data] (by simp)]
        · next hlong =>
          obtain ⟨fragments, hloop, hfragments, hsize, hmarker⟩ :=
            fuFragments_fragments hm header data rest.isEmpty (by omega)
          refine ⟨_, .round (.fragmented (by omega) hfragments hsize hmarker) ?_ hruns ?_ hlater⟩
          · rw [hplans, hloop, List.map_map]
            simp [Function.comp_def]
          · intro P hP
            simp [hP run hshort, hP [header :: data] (by simp)]

/-! ## Reading the bytes back -/

theorem Tiles.length_eq {body : Bytes} {group : List NalUnit} (h : Tiles body group) :
    body.length = (group.map (·.length + 2)).sum := by
  induction h with
  | nil => rfl
  | cons _ _ ih =>
    simp [ih]
    omega

/-- The sizes say where the units are. -/
theorem Tiles.unique {body : Bytes} {group group' : List NalUnit} (h : Tiles body group)
    (h' : Tiles body group') : group = group' := by
  induction h generalizing group' with
  | nil =>
    cases h' with
    | nil => rfl
  | @cons high low nal rest group hsize later ih =>
    generalize hbody : high :: low :: (nal ++ rest) = body at h'
    cases h' with
    | nil => cases hbody
    | @cons high' low' nal' rest' group' hsize' later' =>
      simp only [List.cons.injEq] at hbody
      obtain ⟨rfl, rfl, happend⟩ := hbody
      obtain ⟨rfl, rfl⟩ := List.append_inj happend (hsize.symm.trans hsize')
      rw [ih later']

theorem Aggregates.unique {payload : Bytes} {group group' : List NalUnit}
    (h : Aggregates payload group) (h' : Aggregates payload group') : group = group' := by
  obtain ⟨indicator, body, rfl, _, htiles⟩ := h
  obtain ⟨indicator', body', heq, _, htiles'⟩ := h'
  obtain ⟨_, rfl⟩ := List.cons.inj heq
  exact htiles.unique htiles'

/-- An aggregation packet is longer than its first unit. -/
theorem Aggregates.length_lt {payload : Bytes} {nal : NalUnit} {group : List NalUnit}
    (h : Aggregates payload (nal :: group)) : nal.length < payload.length := by
  obtain ⟨indicator, body, rfl, _, htiles⟩ := h
  have := htiles.length_eq
  simp only [List.map_cons, List.sum_cons, List.length_cons] at this ⊢
  omega

/-- The fragments of a unit are complete when its data is. -/
theorem Fragments.append_eq {nal : NalUnit} {front back : List Bytes} (h : Fragments nal front)
    (h' : Fragments nal (front ++ back)) : back = [] := by
  have hdata := h'.data
  rw [List.flatMap_append, h.data] at hdata
  have hnil := List.append_cancel_left (hdata.trans (List.append_nil _).symm)
  rcases back with _ | ⟨payload, back⟩
  · rfl
  · rw [List.flatMap_cons, List.append_eq_nil_iff] at hnil
    exact absurd hnil.1 (h'.data_ne_nil payload (by simp))

/-- Two runs of fragments of a unit in front of two lists of packets are one run. -/
theorem Fragments.eq_of_append_eq {nal : NalUnit}
    {fragments fragments' rest rest' : List PacketPlan}
    (h : Fragments nal (fragments.map (·.payload)))
    (h' : Fragments nal (fragments'.map (·.payload)))
    (heq : fragments ++ rest = fragments' ++ rest') : fragments = fragments' ∧ rest = rest' := by
  have hkey : ∀ {front front' back : List PacketPlan}, Fragments nal (front.map (·.payload)) →
      Fragments nal (front'.map (·.payload)) → front' = front ++ back → back = [] := by
    intro front front' back hfront hfront' hcut
    subst hcut
    rw [List.map_append] at hfront'
    exact List.map_eq_nil_iff.mp (hfront.append_eq hfront')
  rcases List.append_eq_append_iff.mp heq with ⟨back, hcut, hrest⟩ | ⟨back, hcut, hrest⟩
  · obtain rfl := hkey h h' hcut
    simp_all
  · obtain rfl := hkey h' h hcut
    simp_all

/-- What an aggregation round takes begins with the first unit. -/
theorem eq_cons_of_append_eq {group rest rest' : List NalUnit} {nal : NalUnit}
    (htwo : 2 ≤ group.length) (h : group ++ rest = nal :: rest') :
    ∃ group', group = nal :: group' := by
  cases group with
  | nil => simp at htwo
  | cons first group' => exact ⟨group', by rw [(List.cons.inj h).1]⟩

/-- Two rounds of one packet that send the same plan first. -/
theorem first_plan_eq {s s' : Shipment} {shipments shipments' : List Shipment}
    (heq : ([s] ++ shipments).map (·.plan) = ([s'] ++ shipments').map (·.plan)) :
    s.plan.payload = s'.plan.payload
      ∧ shipments.map (·.plan) = shipments'.map (·.plan) := by
  obtain ⟨hplan, hlater⟩ := List.cons.inj heq
  exact ⟨congrArg PacketPlan.payload hplan, hlater⟩

/-- An aggregation packet is longer than the first unit in it, so it is not this unit. -/
theorem Aggregates.ne_unit {payload : Bytes} {nal : NalUnit} {group : List NalUnit}
    (h : Aggregates payload (nal :: group)) : payload ≠ nal := by
  rintro rfl
  exact absurd h.length_lt (Nat.lt_irrefl _)

/-- **The bytes say which round was made**: the length of the first payload tells the kinds
apart, its bytes the units. -/
theorem Round.unique {m : Nat} {nals rest rest' : List NalUnit}
    {sent sent' shipments shipments' : List Shipment} (h : Round m nals sent rest)
    (h' : Round m nals sent' rest')
    (heq : (sent ++ shipments).map (·.plan) = (sent' ++ shipments').map (·.plan)) :
    sent = sent' ∧ rest = rest' ∧ shipments.map (·.plan) = shipments'.map (·.plan) := by
  cases h with
  | @aggregated group rest payload htwo hne hpayload hsize =>
    generalize hnals : group ++ rest = nals at h'
    cases h' with
    | @aggregated group' rest' payload' htwo' hne' hpayload' hsize' =>
      obtain ⟨rfl, hlater⟩ := first_plan_eq heq
      obtain rfl := hpayload.unique hpayload'
      obtain rfl := List.append_cancel_left hnals
      exact ⟨rfl, rfl, hlater⟩
    | @single nal rest' hne' hsize' =>
      obtain ⟨group', rfl⟩ := eq_cons_of_append_eq htwo hnals
      exact absurd (first_plan_eq heq).1 hpayload.ne_unit
    | @fragmented nal rest' fragments hlong _ _ _ =>
      obtain ⟨group', rfl⟩ := eq_cons_of_append_eq htwo hnals
      have hlength := hpayload.length_lt
      omega
  | @single nal rest hne hsize =>
    generalize hnals : nal :: rest = nals at h'
    cases h' with
    | @aggregated group' rest' payload' htwo' hne' hpayload' hsize' =>
      obtain ⟨group, rfl⟩ := eq_cons_of_append_eq htwo' hnals.symm
      exact absurd (first_plan_eq heq).1.symm hpayload'.ne_unit
    | @single nal' rest' hne' hsize' =>
      obtain ⟨rfl, rfl⟩ := List.cons.inj hnals
      exact ⟨rfl, rfl, (first_plan_eq heq).2⟩
    | @fragmented nal' rest' fragments hlong _ _ _ =>
      obtain ⟨rfl, rfl⟩ := List.cons.inj hnals
      omega
  | @fragmented nal rest fragments hlong hfragments hsize hmarker =>
    generalize hnals : nal :: rest = nals at h'
    cases h' with
    | @aggregated group' rest' payload' htwo' hne' hpayload' hsize' =>
      obtain ⟨group, rfl⟩ := eq_cons_of_append_eq htwo' hnals.symm
      have hlength := hpayload'.length_lt
      omega
    | @single nal' rest' hne' hsize' =>
      obtain ⟨rfl, rfl⟩ := List.cons.inj hnals
      omega
    | @fragmented nal' rest' fragments' hlong' hfragments' hsize' hmarker' =>
      obtain ⟨rfl, rfl⟩ := List.cons.inj hnals
      simp only [List.map_append, List.map_map, Function.comp_def, List.map_id'] at heq
      obtain ⟨rfl, hlater⟩ := hfragments.eq_of_append_eq hfragments' heq
      exact ⟨rfl, rfl, hlater⟩

/-- A round begins with a unit that is not empty, and sends something. -/
theorem Round.begins {m : Nat} {nals rest : List NalUnit} {sent : List Shipment}
    (h : Round m nals sent rest) : (∃ nal tail, nals = nal :: tail ∧ nal ≠ []) ∧ sent ≠ [] := by
  cases h with
  | @aggregated group rest payload htwo hne _ _ =>
    cases group with
    | nil => simp at htwo
    | cons nal group => exact ⟨⟨nal, group ++ rest, rfl, hne nal (by simp)⟩, by simp⟩
  | @single nal rest hne _ => exact ⟨⟨nal, rest, rfl, hne⟩, by simp⟩
  | @fragmented nal rest fragments hlong hfragments _ _ =>
    refine ⟨⟨nal, rest, rfl, ?_⟩, ?_⟩
    · rintro rfl
      simp at hlong
    · intro hnil
      have := hfragments.two_le
      rw [List.map_eq_nil_iff.mp hnil] at this
      simp at this

/-- **The datagrams of a list say which units each of them carries.** -/
theorem Sends.unique {m : Nat} {nals : List NalUnit} {shipments shipments' : List Shipment}
    (h : Sends m nals shipments) (h' : Sends m nals shipments')
    (heq : shipments.map (·.plan) = shipments'.map (·.plan)) : shipments = shipments' := by
  induction h generalizing shipments' with
  | done =>
    exact (List.map_eq_nil_iff.mp heq.symm).symm
  | @skipped rest shipments later ih =>
    generalize hnals : [] :: rest = nals at h'
    cases h' with
    | done => cases hnals
    | @skipped rest' shipments' later' =>
      obtain ⟨_, rfl⟩ := List.cons.inj hnals
      exact ih later' heq
    | @round nals rest' sent' shipments' now' later' =>
      obtain ⟨⟨nal, tail, rfl, hne⟩, _⟩ := now'.begins
      exact absurd (List.cons.inj hnals).1.symm hne
  | @round nals rest sent shipments now later ih =>
    cases h' with
    | done =>
      obtain ⟨⟨nal, tail, hcons, _⟩, _⟩ := now.begins
      cases hcons
    | @skipped rest' shipments' later' =>
      obtain ⟨⟨nal, tail, hcons, hne⟩, _⟩ := now.begins
      exact absurd (List.cons.inj hcons).1.symm hne
    | @round nals rest' sent' shipments' now' later' =>
      obtain ⟨rfl, rfl, hlater⟩ := now.unique now' heq
      rw [ih later' hlater]

end Ipmx.Rtp
