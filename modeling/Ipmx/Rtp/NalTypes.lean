/-
Ipmx.Rtp.NalTypes — the types of the NAL units that are delivered.

A Single NAL and the elements of a STAP-A are stored only if their type is in
1..23. The header of a fragmented unit is put together from the two header
bytes of its first FU-A and is not checked. `run_delivers_legal` says that this
is the only way in: a run without an FU-A that begins a unit of another type
delivers legal units only, through resets and whatever else arrives.
`run_delivers_aggregate` is a run with one.
-/
import Ipmx.Lib.Trace
import Ipmx.Rtp.Sources

namespace Ipmx.Rtp

open H264
open Ipmx.Lib

/-! ## Payloads -/

/-- An FU-A that begins a unit begins one of a type in 1..23. -/
def TypedStart : Bytes → Prop
  | indicator :: header :: _ =>
    indicator &&& 0x1F = 28 → header &&& 0x80 ≠ 0 → 1 ≤ header &&& 0x1F ∧ header &&& 0x1F ≤ 23
  | _ => True

instance : (payload : Bytes) → Decidable (TypedStart payload)
  | [] => isTrue trivial
  | [_] => isTrue trivial
  | _ :: _ :: _ => inferInstanceAs (Decidable (_ → _ → _))

/-- A payload of one of the three formats, in which every unit that begins is of a type in
1..23. -/
inductive WellTyped : Bytes → Prop
  | single {nal : NalUnit} (hnal : Carriable nal) : WellTyped nal
  | aggregated {header : UInt8} {group : List NalUnit} (htype : header &&& 0x1F = 24)
      (hne : group ≠ []) (hgroup : ∀ nal ∈ group, Carriable nal) :
      WellTyped (header :: aggregatedUnits group)
  | fragment {indicator header : UInt8} {data : Bytes} (htype : indicator &&& 0x1F = 28)
      (hstart : TypedStart (indicator :: header :: data)) :
      WellTyped (indicator :: header :: data)

/-- What is carried begins well typed, if the fragments that begin are. -/
theorem Carries.wellTyped {cur : Option NalUnit} {payload : Bytes} {rest : List Bytes}
    {nals : List NalUnit} (h : Carries cur (payload :: rest) nals)
    (hstart : TypedStart payload) : WellTyped payload := by
  cases h with
  | single hnal => exact .single hnal
  | aggregated htype hne hgroup => exact .aggregated htype hne fun nal hmem => (hgroup nal hmem).1
  | fragmentStart htype => exact .fragment htype hstart
  | fragmentWhole htype => exact .fragment htype hstart
  | fragmentMiddle htype => exact .fragment htype hstart
  | fragmentEnd htype => exact .fragment htype hstart

/-- The type of the header that is put together is the one in the second header byte. -/
theorem fragmentedHeader_type (indicator header : UInt8) :
    fragmentedHeader indicator header &&& 0x1F = header &&& 0x1F := by
  have hindicator : indicator &&& (0xE0 &&& 0x1F) = 0 := UInt8.and_zero
  have hheader : header &&& (0x1F &&& 0x1F) = header &&& 0x1F := rfl
  have hdistrib : (indicator &&& 0xE0 ||| header &&& 0x1F) &&& 0x1F
      = indicator &&& 0xE0 &&& 0x1F ||| header &&& 0x1F &&& 0x1F :=
    UInt8.toBitVec_inj.mp BitVec.and_or_distrib_right
  rw [fragmentedHeader, hdistrib, UInt8.and_assoc, UInt8.and_assoc, hindicator, hheader,
    UInt8.zero_or]

/-! ## What the depacketizer holds -/

namespace H264Depacketizer

/-- Every unit that is stored, and the one that is open, is of a type in 1..23. -/
structure Legal (d : H264Depacketizer) : Prop where
  nals : ∀ nal ∈ d.nals, Carriable nal
  fragment : d.fragmented = true → Carriable d.fragment

theorem Legal.fresh {d : H264Depacketizer} (hnals : d.nals = []) (hclosed : d.fragmented = false) :
    Legal d := by
  constructor
  · intro nal hmem
    rw [hnals] at hmem
    cases hmem
  · intro hopen
    rw [hclosed] at hopen
    cases hopen

theorem Legal.append {d : H264Depacketizer} (h : Legal d) {nal : NalUnit} (hnal : Carriable nal) :
    ∀ x ∈ d.nals ++ [nal], Carriable x := by
  intro x hx
  rcases List.mem_append.mp hx with hx | hx
  · exact h.nals x hx
  · rw [List.mem_singleton.mp hx]
    exact hnal

theorem Legal.beginPacket {d : H264Depacketizer} (h : Legal d) (packet : ParsedRtpPacket) :
    Legal (d.beginPacket packet) := by
  rcases d.inside_or_outside packet with ⟨hactive, htimestamp⟩ | hrestart
  · rw [beginPacket_follows packet hactive htimestamp]
    exact ⟨h.nals, h.fragment⟩
  · rw [beginPacket_restart packet hrestart]
    exact Legal.fresh rfl rfl

theorem Legal.abandonFragment {d : H264Depacketizer} (h : Legal d) : Legal d.abandonFragment := by
  unfold H264Depacketizer.abandonFragment
  split
  · exact ⟨h.nals, fun hopen => nomatch hopen⟩
  · exact h

theorem Legal.storeSingleNal {d : H264Depacketizer} (h : Legal d) {payload : Bytes}
    (hnal : Carriable payload) : Legal (d.storeSingleNal payload) := by
  have hclosed := h.abandonFragment
  unfold H264Depacketizer.storeSingleNal
  dsimp only
  split
  · exact ⟨hclosed.nals, hclosed.fragment⟩
  · exact ⟨hclosed.append hnal, hclosed.fragment⟩

/-- The element loop stores what passes its type check. -/
theorem Legal.storeStapElements {fuel : Nat} {d : H264Depacketizer} {bytes : Bytes}
    (h : Legal d) : Legal (storeStapElements fuel d bytes) := by
  induction fuel generalizing d bytes with
  | zero => exact h
  | succ fuel ih =>
    rcases bytes with _ | ⟨high, _ | ⟨low, rest⟩⟩
    · exact h
    · exact ⟨h.nals, h.fragment⟩
    · rw [H264Depacketizer.storeStapElements]
      dsimp only
      split
      · exact ⟨h.nals, h.fragment⟩
      · next hfits =>
        split
        · exact ⟨h.nals, h.fragment⟩
        · next htype =>
          simp only [not_or] at hfits
          exact ih ⟨h.append (carriable_take hfits.1 htype), h.fragment⟩

theorem Legal.storeStapA {d : H264Depacketizer} (h : Legal d) (payload : Bytes) :
    Legal (d.storeStapA payload) := by
  have hclosed := h.abandonFragment
  unfold H264Depacketizer.storeStapA
  dsimp only
  split
  · exact Legal.storeStapElements ⟨hclosed.nals, hclosed.fragment⟩
  · exact Legal.storeStapElements hclosed

/-- A later fragment does not change the type of the unit it belongs to. -/
theorem carriable_append {nal : NalUnit} (h : Carriable nal) (data : Bytes) :
    Carriable (nal ++ data) := by
  cases nal with
  | nil => exact absurd rfl h.ne_nil
  | cons header rest => exact h

/-- Only the header byte of a unit that begins has to be looked at. -/
theorem Legal.takeFragment {d : H264Depacketizer} (h : Legal d) {indicator header : UInt8}
    {data : Bytes} (hstart : header &&& 0x80 ≠ 0 → 1 ≤ header &&& 0x1F ∧ header &&& 0x1F ≤ 23) :
    Legal (d.takeFragment indicator header data) := by
  unfold H264Depacketizer.takeFragment
  extract_lets start again begun
  have hnals : begun.nals = d.nals := by
    dsimp only [begun, again]
    split <;> rfl
  have hbegun : ∀ nal ∈ begun.nals, Carriable nal := hnals ▸ h.nals
  split
  · next hfirst =>
    have htype := hstart (of_decide_eq_true hfirst)
    rw [← fragmentedHeader_type indicator header] at htype
    have hheader : Carriable begun.fragment := htype
    split
    · exact ⟨hbegun, fun hopen => nomatch hopen⟩
    · exact ⟨hbegun, fun _ => carriable_append hheader data⟩
  · split
    · next hopen =>
      split
      · exact ⟨h.nals, fun hopen => nomatch hopen⟩
      · exact ⟨h.nals, fun _ => carriable_append (h.fragment hopen) data⟩
    · exact ⟨h.nals, h.fragment⟩

theorem Legal.closeFragment {d : H264Depacketizer} (h : Legal d) (hopen : d.fragmented = true) :
    Legal d.closeFragment := by
  unfold H264Depacketizer.closeFragment
  extract_lets stored
  have hstored : ∀ nal ∈ stored.nals, Carriable nal := by
    dsimp only [stored]
    split
    · exact h.nals
    · exact h.append (h.fragment hopen)
  exact ⟨hstored, fun hopen => nomatch hopen⟩

theorem Legal.storeFuA {d : H264Depacketizer} (h : Legal d) {indicator header : UInt8}
    {data : Bytes} (hstart : header &&& 0x80 ≠ 0 → 1 ≤ header &&& 0x1F ∧ header &&& 0x1F ≤ 23) :
    Legal (d.storeFuA indicator header data) := by
  have htaken : Legal (d.takeFragment indicator header data) := h.takeFragment hstart
  rw [storeFuA_eq]
  split
  · next hend => exact htaken.closeFragment hend.2
  · exact htaken

/-- **One payload.** What is stored stays legal, if the unit that a fragment begins is. -/
theorem Legal.storePayload {d : H264Depacketizer} (h : Legal d) {payload : Bytes}
    (hstart : TypedStart payload) : Legal (d.storePayload payload) := by
  unfold H264Depacketizer.storePayload
  dsimp only
  split
  · next hsingle =>
    refine h.storeSingleNal ?_
    cases payload with
    | nil => exact absurd hsingle (by decide)
    | cons header data => exact hsingle
  · split
    · exact h.storeStapA payload
    · split
      · split
        · next hfu => exact h.storeFuA (hstart hfu)
        · exact ⟨h.nals, h.fragment⟩
      · exact ⟨h.nals, h.fragment⟩

theorem Legal.finishPacket {d : H264Depacketizer} (h : Legal d) (marker : Bool) :
    Legal (d.finishPacket marker).2 := by
  have hreset : ∀ other : H264Depacketizer, Legal other.reset := by
    intro other
    exact Legal.fresh rfl rfl
  unfold H264Depacketizer.finishPacket
  split
  · exact h
  · dsimp only
    split_ifs <;> exact hreset _

/-- A payload that is not well typed damages the unit it is stored into. -/
theorem storePayload_damages (d : H264Depacketizer) {payload : Bytes}
    (hstart : TypedStart payload) (hforeign : ¬ WellTyped payload) :
    (d.storePayload payload).damaged = true := by
  cases hdamaged : (d.storePayload payload).damaged with
  | true => rfl
  | false =>
    obtain ⟨new, _, _, hcarries⟩ := storePayload_adds hdamaged
    have hrest : ∃ rest more, Carries (d.storePayload payload).cur rest more := by
      cases hopen : (d.storePayload payload).cur with
      | none => exact ⟨[], [], .done⟩
      | some sent =>
        have hend : Carries (some sent) [[0x1C, 0x40]] [sent ++ []] :=
          .fragmentEnd (by decide) (by decide) (by decide) .done
        exact ⟨_, _, hend⟩
    obtain ⟨rest, more, hmore⟩ := hrest
    exact absurd ((hcarries rest more hmore).wellTyped hstart) hforeign

/-! ## Runs of calls -/

end H264Depacketizer

/-- A call of the depacketizer. -/
inductive DepacketizerCall where
  | push (packet : ParsedRtpPacket)
  | reset
deriving DecidableEq, Repr

/-- A depacketizer, and what it has returned: each unit with the NAL units it is made of. -/
structure Delivery where
  depacketizer : H264Depacketizer := {}
  delivered : List (CompletedAccessUnit × List NalUnit) := []
deriving DecidableEq, Repr

namespace Delivery

/-- A unit is made of the NAL units that are stored when the marker is looked at. -/
def push (s : Delivery) (packet : ParsedRtpPacket) : Delivery :=
  let stored := (s.depacketizer.beginPacket packet).storePayload packet.payload
  { depacketizer := (s.depacketizer.push packet).2
    delivered :=
      s.delivered ++ (s.depacketizer.push packet).1.toList.map fun unit => (unit, stored.nals) }

def step (s : Delivery) : DepacketizerCall → Option Delivery
  | .push packet => some (s.push packet)
  | .reset => some { s with depacketizer := s.depacketizer.reset }

/-- A call does not begin a fragmented unit of a type outside 1..23. -/
def BeginsTyped (_ : Delivery) : DepacketizerCall → Prop
  | .push packet => Accepted packet → TypedStart packet.payload
  | .reset => True

instance (s : Delivery) : DecidablePred s.BeginsTyped
  | .push packet => inferInstanceAs (Decidable (Accepted packet → TypedStart packet.payload))
  | .reset => inferInstanceAs (Decidable True)

/-- What is delivered are the bytes of units of types in 1..23. -/
def Clean (s : Delivery) : Prop :=
  ∀ unit nals, (unit, nals) ∈ s.delivered →
    unit.annexB = buildAnnexB nals ∧ ∀ nal ∈ nals, nal ≠ [] ∧ Carriable nal

/-- The unit that `packet` would be stored into is not returned, and is damaged until its end. -/
def Refuses (s : Delivery) (packet : ParsedRtpPacket) : Prop :=
  (s.depacketizer.push packet).1 = none
    ∧ (packet.marker = false → (s.depacketizer.push packet).2.damaged = true)

/-! ## One call -/

/-- The invariant: what is stored is legal, and what is delivered is clean. -/
structure Sound (s : Delivery) : Prop where
  legal : s.depacketizer.Legal
  clean : s.Clean

theorem Sound.push {s : Delivery} (h : s.Sound) {packet : ParsedRtpPacket}
    (hstart : Accepted packet → TypedStart packet.payload) : (s.push packet).Sound := by
  unfold Delivery.push
  by_cases haccepted : Accepted packet
  · have hstored := (h.legal.beginPacket packet).storePayload (hstart haccepted)
    dsimp only
    rw [H264Depacketizer.push_accepted _ haccepted.1 haccepted.2]
    generalize (s.depacketizer.beginPacket packet).storePayload packet.payload = stored
      at hstored ⊢
    refine ⟨hstored.finishPacket packet.marker, ?_⟩
    intro unit nals hmem
    rcases List.mem_append.mp hmem with hbefore | hnew
    · exact h.clean unit nals hbefore
    · obtain ⟨returned, hreturned, hpair⟩ := List.mem_map.mp hnew
      obtain ⟨rfl, rfl⟩ := Prod.mk.inj hpair
      have hunit := Option.mem_toList.mp hreturned
      rcases stored.finishPacket_cases packet.marker with ⟨_, hnone⟩ | ⟨_, _, hsome⟩
      · rw [hnone] at hunit
        cases hunit
      · obtain ⟨_, _, rfl⟩ := hsome _ hunit
        exact ⟨rfl, fun nal hnal => ⟨(hstored.nals nal hnal).ne_nil, hstored.nals nal hnal⟩⟩
  · have hpush : s.depacketizer.push packet = (none, s.depacketizer) := by
      rw [H264Depacketizer.push, if_pos]
      simpa only [Accepted, not_and_or, ne_eq, not_not] using haccepted
    rw [hpush]
    refine ⟨h.legal, ?_⟩
    intro unit nals hmem
    simp only [Option.toList_none, List.map_nil, List.append_nil] at hmem
    exact h.clean unit nals hmem

/-- A call that begins nothing untyped keeps the delivery sound. -/
theorem Sound.step {s : Delivery} {call : DepacketizerCall} {next : Delivery}
    (hstep : s.step call = some next) (hcall : s.BeginsTyped call) (h : s.Sound) : next.Sound := by
  cases call with
  | push packet =>
    obtain rfl := Option.some.inj hstep
    exact h.push hcall
  | reset =>
    obtain rfl := Option.some.inj hstep
    exact ⟨H264Depacketizer.Legal.fresh rfl rfl, h.clean⟩

theorem Sound.start : ({} : Delivery).Sound := by
  refine ⟨H264Depacketizer.Legal.fresh rfl rfl, ?_⟩
  intro unit nals hmem
  cases hmem

/-- A payload that is not well typed is refused in every state. -/
theorem refuses_foreign (s : Delivery) {packet : ParsedRtpPacket} (haccepted : Accepted packet)
    (hstart : TypedStart packet.payload) (hforeign : ¬ WellTyped packet.payload) :
    s.Refuses packet := by
  have hdamaged :=
    (s.depacketizer.beginPacket packet).storePayload_damages hstart hforeign
  rw [Refuses, H264Depacketizer.push_accepted _ haccepted.1 haccepted.2]
  generalize (s.depacketizer.beginPacket packet).storePayload packet.payload = stored
    at hdamaged ⊢
  rcases stored.finishPacket_cases packet.marker with ⟨hmarker, heq⟩ | ⟨hmarker, _, hsome⟩
  · rw [heq]
    exact ⟨rfl, fun _ => hdamaged⟩
  · refine ⟨?_, fun hunmarked => absurd (hmarker.symm.trans hunmarked) (by decide)⟩
    cases hunit : (stored.finishPacket packet.marker).1 with
    | none => rfl
    | some unit => exact absurd ((hsome unit hunit).1.symm.trans hdamaged) (by decide)

/-! ## Runs -/

/-- **A run.** As long as no FU-A begins a unit of a type outside 1..23, every unit delivered
is made of units of types in 1..23, and a payload of another type damages its unit. -/
theorem run_delivers_legal {calls : List DepacketizerCall} {s : Delivery}
    (hcalls : Trace.EveryStep step BeginsTyped {} calls)
    (hrun : Trace.run step {} calls = some s) :
    s.Clean ∧ ∀ packet, Accepted packet → s.BeginsTyped (.push packet) →
      ¬ WellTyped packet.payload → s.Refuses packet := by
  have hsound : s.Sound :=
    Trace.run_invariant_everyStep Sound (fun s call next hstep hcall h => h.step hstep hcall)
      Sound.start hcalls hrun
  refine ⟨hsound.clean, ?_⟩
  intro packet haccepted hstart hforeign
  exact s.refuses_foreign haccepted (hstart haccepted) hforeign

/-- A packet of the timestamp 9 with the marker. -/
def markedPacket (sequence : UInt16) (payload : Bytes) : ParsedRtpPacket :=
  { sequence, timestamp := 9, ssrc := 1, payloadType := 96, marker := true, captureTimeNs := 5,
    payload }

/-- A fragment of an IDR slice, a reset, and a slice behind it. -/
def typedCalls : List DepacketizerCall :=
  [.push { markedPacket 7 [0x7C, 0x85, 1] with marker := false }, .reset,
    .push (markedPacket 8 [0x41, 2])]

theorem run_delivers_legal_slice :
    ∃ s, Trace.run step {} typedCalls = some s
      ∧ s.delivered = [(⟨9, 5, [0, 0, 0, 1, 0x41, 2]⟩, [[0x41, 2]])] ∧ s.Clean := by
  refine ⟨_, rfl, by decide, ?_⟩
  have hcalls : Trace.EveryStep step BeginsTyped {} typedCalls := by
    decide
  exact (run_delivers_legal hcalls rfl).1

/-- One FU-A that begins and ends a unit of type 24 is delivered as a STAP-A header. -/
theorem run_delivers_aggregate :
    ∃ s, Trace.run step {} [.push (markedPacket 7 [0x7C, 0xD8, 1])] = some s
      ∧ (⟨9, 5, [0, 0, 0, 1, 0x78, 1]⟩, [[0x78, 1]]) ∈ s.delivered
      ∧ h264NalType [0x78, 1] = 24 ∧ ¬ s.Clean := by
  have hdelivered : (⟨9, 5, [0, 0, 0, 1, 0x78, 1]⟩, [[0x78, 1]])
      ∈ (Delivery.push {} (markedPacket 7 [0x7C, 0xD8, 1])).delivered := by
    decide
  refine ⟨_, rfl, hdelivered, rfl, ?_⟩
  intro hclean
  have hnals := (hclean _ _ hdelivered).2
  exact absurd hnals (by decide)

end Delivery
end Ipmx.Rtp
