/-
Ipmx.Rtp.WireDiscipline — what holds of the datagrams of any calls of
`packetize`.

The datagrams are read back with `parse_rtp_packet`. Their sizes, sequence
numbers and contents hold without a condition; that an access unit ends with
its marker, and that no datagram carries two coded slices, hold under
conditions on the list of units that are stated here exactly.
-/
import Ipmx.Rtp.Shipments

namespace Ipmx.Rtp

open H264

/-! ## Calls -/

/-- One call of `packetize`. -/
structure PacketizeCall where
  nals : List NalUnit
  timestamp : UInt32
  captureTimeNs : UInt64
deriving DecidableEq, Repr

/-- `next_sequence`. -/
def RtpPacketizer.nextSequence (p : RtpPacketizer) : UInt16 := p.sequence

/-- Calls one after the other: what each of them returns, and the packetizer behind them. -/
def RtpPacketizer.packetizeCalls :
    RtpPacketizer → List PacketizeCall → List (List Bytes) × RtpPacketizer
  | p, [] => ([], p)
  | p, call :: calls =>
    let (packets, p) := p.packetize call.nals call.timestamp call.captureTimeNs
    let (later, p) := p.packetizeCalls calls
    (packets :: later, p)

/-- The payload and the marker of a datagram. -/
def planOf (datagram : Bytes) : Option PacketPlan :=
  (parseRtpPacket datagram).map fun packet =>
    { payload := packet.payload, marker := packet.marker }

def sequenceOf (datagram : Bytes) : Option UInt16 :=
  (parseRtpPacket datagram).map (·.sequence)

/-! ## One call -/

section Call

variable (p : RtpPacketizer) (timestamp : UInt32) (captureTimeNs : UInt64)

/-- The datagrams hold what they were planned to hold. -/
theorem RtpPacketizer.makePackets_planOf {plans : List PacketPlan}
    (hplans : ∀ plan ∈ plans, plan.payload ≠ []) :
    (p.makePackets timestamp captureTimeNs plans).1.map planOf = plans.map some := by
  induction plans generalizing p with
  | nil => rfl
  | cons plan plans ih =>
    have hnow := parseRtpPacket_packetBytes
      { payloadType := p.payloadType, marker := plan.marker, sequence := p.sequence, timestamp
        ssrc := p.ssrc, captureTimeNs } plan.payload p.payloadType_le (hplans plan (by simp))
    have hlater := ih (p.makePacket plan.payload timestamp captureTimeNs plan.marker).2
      fun plan hmem => hplans plan (List.mem_cons_of_mem _ hmem)
    rw [RtpPacketizer.makePackets, List.map_cons, List.map_cons, hlater]
    simp [planOf, RtpPacketizer.makePacket, hnow]

/-- The datagram of a payload that is not empty: its size, and its sequence number. -/
theorem RtpPacketizer.makePackets_header {plans : List PacketPlan}
    (hplans : ∀ plan ∈ plans, plan.payload ≠ []) {i : Nat} {datagram : Bytes}
    (h : (p.makePackets timestamp captureTimeNs plans).1[i]? = some datagram) :
    sequenceOf datagram = some (p.sequence + UInt16.ofNat i)
      ∧ ∃ plan ∈ plans, datagram.length = kFullHeaderSize + plan.payload.length := by
  obtain ⟨hi, rfl⟩ := List.getElem?_eq_some_iff.mp h
  have hi' : i < plans.length := by rwa [p.makePackets_length] at hi
  rw [p.makePackets_getElem timestamp captureTimeNs plans i hi' hi]
  constructor
  · rw [sequenceOf, parseRtpPacket_packetBytes _ _ p.payloadType_le
      (hplans _ (List.getElem_mem hi'))]
    rfl
  · exact ⟨plans[i], List.getElem_mem hi', length_packetBytes _ _⟩

/-- A round stays within its budget. -/
theorem Round.payloads {m : Nat} {nals rest : List NalUnit} {sent : List Shipment}
    (h : Round m nals sent rest) :
    ∀ s ∈ sent, s.plan.payload ≠ [] ∧ s.plan.payload.length ≤ m := by
  cases h with
  | aggregated _ _ hpayload hsize =>
    obtain ⟨indicator, body, rfl, _, _⟩ := hpayload
    simpa using hsize
  | single hne hsize => simp [hne, hsize]
  | fragmented _ hfragments hsize _ =>
    intro s hmem
    obtain ⟨plan, hplan, rfl⟩ := List.mem_map.mp hmem
    refine ⟨?_, hsize plan hplan⟩
    intro hnil
    have := hfragments.data_ne_nil plan.payload (List.mem_map_of_mem hplan)
    rw [hnil] at this
    exact this rfl

theorem Sends.payloads {m : Nat} {nals : List NalUnit} {shipments : List Shipment}
    (h : Sends m nals shipments) :
    ∀ s ∈ shipments, s.plan.payload ≠ [] ∧ s.plan.payload.length ≤ m := by
  induction h with
  | done => simp
  | skipped _ ih => exact ih
  | round now _ ih =>
    intro s hmem
    rcases List.mem_append.mp hmem with hmem | hmem
    · exact now.payloads s hmem
    · exact ih s hmem

/-- **One call**: what it sends, what the datagrams look like, and what it leaves behind. -/
theorem RtpPacketizer.packetize_sends (nals : List NalUnit) :
    ∃ shipments, Sends p.maximumPayload nals shipments
      ∧ (p.packetize nals timestamp captureTimeNs).1.map planOf
        = shipments.map (fun s => some s.plan)
      ∧ ∀ P : List NalUnit → Prop, (∀ units : List NalUnit, units.length ≤ 1 → P units) →
        ((∀ s ∈ shipments, P s.carried) ↔ ∀ run ∈ runs p.maximumPayload 0 nals, P run) := by
  obtain ⟨shipments, hplans, hsends, hruns⟩ := packetizeLoop_sends p.maximumPayload_ge nals
  refine ⟨shipments, hsends, ?_, hruns⟩
  rw [RtpPacketizer.packetize, p.makePackets_planOf, ← hplans, List.map_map]
  · rfl
  · intro plan hmem
    rw [← hplans] at hmem
    obtain ⟨s, hs, rfl⟩ := List.mem_map.mp hmem
    exact (hsends.payloads s hs).1

theorem RtpPacketizer.packetize_header (nals : List NalUnit) {i : Nat} {datagram : Bytes}
    (h : (p.packetize nals timestamp captureTimeNs).1[i]? = some datagram) :
    sequenceOf datagram = some (p.sequence + UInt16.ofNat i)
      ∧ datagram.length ≤ p.maximumDatagramBytes := by
  obtain ⟨shipments, hplans, hsends, _⟩ := packetizeLoop_sends p.maximumPayload_ge nals
  have hpayloads : ∀ plan ∈ packetizeLoop p.maximumPayload 0 nals,
      plan.payload ≠ [] ∧ plan.payload.length ≤ p.maximumPayload := by
    intro plan hmem
    rw [← hplans] at hmem
    obtain ⟨s, hs, rfl⟩ := List.mem_map.mp hmem
    exact hsends.payloads s hs
  obtain ⟨hsequence, plan, hplan, hlength⟩ :=
    p.makePackets_header timestamp captureTimeNs (fun plan hmem => (hpayloads plan hmem).1) h
  refine ⟨hsequence, ?_⟩
  have hminimum := p.minimum_le
  have hsize := (hpayloads plan hplan).2
  rw [RtpPacketizer.maximumPayload] at hsize
  rw [hlength]
  unfold kFullHeaderSize at hsize ⊢
  omega

theorem RtpPacketizer.packetize_next (nals : List NalUnit) :
    (p.packetize nals timestamp captureTimeNs).2
      = { p with
          sequence := p.sequence
            + UInt16.ofNat (p.packetize nals timestamp captureTimeNs).1.length } := by
  rw [RtpPacketizer.packetize, p.makePackets_snd, p.makePackets_length]

end Call

/-! ## The discipline over all calls -/

theorem packetizeCalls_cons (p : RtpPacketizer) (call : PacketizeCall)
    (calls : List PacketizeCall) :
    p.packetizeCalls (call :: calls)
      = ((p.packetize call.nals call.timestamp call.captureTimeNs).1
          :: ((p.packetize call.nals call.timestamp call.captureTimeNs).2.packetizeCalls calls).1,
        ((p.packetize call.nals call.timestamp call.captureTimeNs).2.packetizeCalls calls).2) :=
  rfl

theorem packetizeCalls_snoc (p : RtpPacketizer) (calls : List PacketizeCall)
    (call : PacketizeCall) :
    p.packetizeCalls (calls ++ [call])
      = ((p.packetizeCalls calls).1
          ++ [((p.packetizeCalls calls).2.packetize call.nals call.timestamp
            call.captureTimeNs).1],
        ((p.packetizeCalls calls).2.packetize call.nals call.timestamp call.captureTimeNs).2) := by
  induction calls generalizing p with
  | nil => rfl
  | cons first calls ih =>
    rw [List.cons_append, packetizeCalls_cons, ih]
    rfl

theorem packetizeCalls_within (p : RtpPacketizer) (calls : List PacketizeCall) :
    ∀ datagram ∈ (p.packetizeCalls calls).1.flatten,
      datagram.length ≤ p.maximumDatagramBytes
        ∧ ∃ plan, planOf datagram = some plan ∧ plan.payload ≠ [] := by
  induction calls generalizing p with
  | nil => simp [RtpPacketizer.packetizeCalls]
  | cons call calls ih =>
    intro datagram hmem
    rw [packetizeCalls_cons, List.flatten_cons] at hmem
    rcases List.mem_append.mp hmem with hmem | hmem
    · obtain ⟨i, hi⟩ := List.mem_iff_getElem?.mp hmem
      refine ⟨(p.packetize_header _ _ _ hi).2, ?_⟩
      obtain ⟨shipments, hsends, hplans, _⟩ :=
        p.packetize_sends call.timestamp call.captureTimeNs call.nals
      have hplan := List.mem_map_of_mem (f := planOf) hmem
      rw [hplans] at hplan
      obtain ⟨s, hs, hsome⟩ := List.mem_map.mp hplan
      exact ⟨s.plan, hsome.symm, (hsends.payloads s hs).1⟩
    · have hlater := ih _ datagram hmem
      rwa [p.packetize_next] at hlater

theorem packetizeCalls_sequence (p : RtpPacketizer) (calls : List PacketizeCall) (i : Nat)
    (datagram : Bytes) (h : (p.packetizeCalls calls).1.flatten[i]? = some datagram) :
    sequenceOf datagram = some (p.nextSequence + UInt16.ofNat i) := by
  induction calls generalizing p i with
  | nil => simp [RtpPacketizer.packetizeCalls] at h
  | cons call calls ih =>
    rw [packetizeCalls_cons, List.flatten_cons] at h
    rcases Nat.lt_or_ge i (p.packetize call.nals call.timestamp call.captureTimeNs).1.length
      with hi | hi
    · rw [List.getElem?_append_left hi] at h
      exact (p.packetize_header _ _ _ h).1
    · rw [List.getElem?_append_right hi] at h
      rw [ih _ _ h, p.packetize_next, RtpPacketizer.nextSequence, RtpPacketizer.nextSequence,
        UInt16.add_assoc, ← UInt16.ofNat_add, Nat.add_sub_cancel' hi]

theorem packetizeCalls_nextSequence (p : RtpPacketizer) (calls : List PacketizeCall) :
    (p.packetizeCalls calls).2.nextSequence
      = p.nextSequence + UInt16.ofNat (p.packetizeCalls calls).1.flatten.length := by
  induction calls generalizing p with
  | nil => simp [RtpPacketizer.packetizeCalls]
  | cons call calls ih =>
    rw [packetizeCalls_cons, List.flatten_cons, List.length_append, UInt16.ofNat_add,
      ← UInt16.add_assoc]
    refine (ih _).trans ?_
    rw [p.packetize_next]
    rfl

theorem packetizeCalls_sends (p : RtpPacketizer) (calls : List PacketizeCall) :
    List.Forall₂
      (fun (call : PacketizeCall) datagrams =>
        ∃ shipments, Sends p.maximumPayload call.nals shipments
          ∧ datagrams.map planOf = shipments.map (fun s => some s.plan))
      calls (p.packetizeCalls calls).1 := by
  induction calls generalizing p with
  | nil => exact .nil
  | cons call calls ih =>
    obtain ⟨shipments, hsends, hplans, _⟩ :=
      p.packetize_sends call.timestamp call.captureTimeNs call.nals
    have hlater := ih (p.packetize call.nals call.timestamp call.captureTimeNs).2
    have hbudget : (p.packetize call.nals call.timestamp call.captureTimeNs).2.maximumPayload
        = p.maximumPayload := by
      rw [p.packetize_next]
      rfl
    rw [hbudget] at hlater
    exact .cons ⟨shipments, hsends, hplans⟩ hlater

/-- **The wire discipline.** Whatever units any calls are given: every datagram is within the
limit and has a payload; the sequence numbers count on over all calls, and `next_sequence` is
the one behind the last; and each call sends its units as `Sends` says, aggregation packets of
at least two consecutive units and at least two fragments of a unit that is too long. -/
theorem packetizeCalls_discipline (p : RtpPacketizer) (calls : List PacketizeCall) :
    (∀ datagram ∈ (p.packetizeCalls calls).1.flatten,
        datagram.length ≤ p.maximumDatagramBytes
          ∧ ∃ plan, planOf datagram = some plan ∧ plan.payload ≠ [])
      ∧ (∀ i datagram, (p.packetizeCalls calls).1.flatten[i]? = some datagram →
        sequenceOf datagram = some (p.nextSequence + UInt16.ofNat i))
      ∧ (p.packetizeCalls calls).2.nextSequence
        = p.nextSequence + UInt16.ofNat (p.packetizeCalls calls).1.flatten.length
      ∧ List.Forall₂
        (fun (call : PacketizeCall) datagrams =>
          ∃ shipments, Sends p.maximumPayload call.nals shipments
            ∧ datagrams.map planOf = shipments.map (fun s => some s.plan))
        calls (p.packetizeCalls calls).1 :=
  ⟨packetizeCalls_within p calls, packetizeCalls_sequence p calls,
    packetizeCalls_nextSequence p calls, packetizeCalls_sends p calls⟩

/-! ## The marker -/

def markerOf (datagram : Bytes) : Option Bool :=
  (parseRtpPacket datagram).map (·.marker)

/-- Datagrams whose last one, and no other, has the marker. -/
def EndsMarked (datagrams : List Bytes) : Prop :=
  ∃ front last, datagrams = front ++ [last] ∧ markerOf last = some true
    ∧ ∀ datagram ∈ front, markerOf datagram = some false

/-- A round has the marker on its last packet, if nothing is left behind it. -/
theorem Round.marker {m : Nat} {nals rest : List NalUnit} {sent : List Shipment}
    (h : Round m nals sent rest) :
    ∃ front last, sent = front ++ [last] ∧ last.plan.marker = rest.isEmpty
      ∧ ∀ s ∈ front, s.plan.marker = false := by
  cases h with
  | aggregated _ _ _ _ => exact ⟨[], _, rfl, rfl, by simp⟩
  | single _ _ => exact ⟨[], _, rfl, rfl, by simp⟩
  | @fragmented nal rest fragments _ hfragments _ hmarker =>
    rcases List.eq_nil_or_concat' fragments with rfl | ⟨front, last, rfl⟩
    · exact absurd hfragments.two_le (by simp)
    · refine ⟨front.map _, _, by rw [List.map_append]; rfl, ?_, ?_⟩
      · have hlast := hmarker front.length (by simp)
        simpa using hlast
      · intro s hmem
        obtain ⟨plan, hplan, rfl⟩ := List.mem_map.mp hmem
        obtain ⟨i, hi, rfl⟩ := List.getElem_of_mem hplan
        have hfront := hmarker i (by simp; omega)
        rw [List.getElem_append_left hi] at hfront
        have hbefore : ¬ i + 1 = (front ++ [last]).length := by
          rw [List.length_append, List.length_singleton]
          omega
        rwa [decide_eq_false hbefore, Bool.and_false] at hfront

/-- What a round takes ends with a unit that is not empty. -/
theorem Round.takes {m : Nat} {nals rest : List NalUnit} {sent : List Shipment}
    (h : Round m nals sent rest) :
    ∃ front nal, nals = front ++ nal :: rest ∧ nal ≠ [] := by
  cases h with
  | @aggregated group rest _ htwo hne _ _ =>
    rcases List.eq_nil_or_concat' group with rfl | ⟨front, last, rfl⟩
    · simp at htwo
    · exact ⟨front, last, by simp, hne last (by simp)⟩
  | @single nal rest hne _ => exact ⟨[], nal, rfl, hne⟩
  | @fragmented nal rest _ hlong _ _ _ =>
    refine ⟨[], nal, rfl, ?_⟩
    rintro rfl
    simp at hlong

/-- A last unit that is not empty is sent with the marker on its last packet. -/
theorem Sends.marked {m : Nat} {nals : List NalUnit} {shipments : List Shipment}
    (h : Sends m nals shipments) (hnals : nals ≠ []) (hlast : nals.getLast? ≠ some []) :
    ∃ front last, shipments = front ++ [last] ∧ last.plan.marker = true
      ∧ ∀ s ∈ front, s.plan.marker = false := by
  induction h with
  | done => exact absurd rfl hnals
  | @skipped rest shipments later ih =>
    cases rest with
    | nil => simp at hlast
    | cons nal rest =>
      rw [List.getLast?_cons_cons] at hlast
      exact ih (List.cons_ne_nil _ _) hlast
  | @round nals rest sent shipments now later ih =>
    obtain ⟨taken, nal, rfl, hnal⟩ := now.takes
    obtain ⟨front, last, rfl, hmarker, hfront⟩ := now.marker
    cases rest with
    | nil =>
      cases later with
      | done => exact ⟨front, last, by simp, hmarker, hfront⟩
      | round now' _ =>
        obtain ⟨⟨_, _, hcons, _⟩, _⟩ := now'.begins
        cases hcons
    | cons next rest =>
      rw [List.getLast?_append_cons, List.getLast?_cons_cons] at hlast
      obtain ⟨front', last', rfl, hmarker', hfront'⟩ := ih (List.cons_ne_nil _ _) hlast
      refine ⟨(front ++ [last]) ++ front', last', by simp, hmarker', ?_⟩
      intro s hmem
      rcases List.mem_append.mp hmem with hmem | hmem
      · rcases List.mem_append.mp hmem with hmem | hmem
        · exact hfront s hmem
        · rw [List.mem_singleton.mp hmem, hmarker]
          rfl
      · exact hfront' s hmem

/-- Behind a last unit that is empty the marker is missing. -/
theorem Sends.unmarked {m : Nat} {nals : List NalUnit} {shipments : List Shipment}
    (h : Sends m nals shipments) (hlast : nals.getLast? = some []) :
    ∀ s ∈ shipments, s.plan.marker = false := by
  induction h with
  | done => simp at hlast
  | @skipped rest shipments later ih =>
    cases rest with
    | nil =>
      cases later with
      | done => simp
      | round now _ =>
        obtain ⟨⟨_, _, hcons, _⟩, _⟩ := now.begins
        cases hcons
    | cons nal rest =>
      rw [List.getLast?_cons_cons] at hlast
      exact ih hlast
  | @round nals rest sent shipments now later ih =>
    obtain ⟨taken, nal, rfl, hnal⟩ := now.takes
    obtain ⟨front, last, rfl, hmarker, hfront⟩ := now.marker
    rw [List.getLast?_append_cons] at hlast
    cases rest with
    | nil => exact absurd (Option.some.inj hlast) hnal
    | cons next rest =>
      rw [List.getLast?_cons_cons] at hlast
      intro s hmem
      rcases List.mem_append.mp hmem with hmem | hmem
      · rcases List.mem_append.mp hmem with hmem | hmem
        · exact hfront s hmem
        · rw [List.mem_singleton.mp hmem, hmarker]
          rfl
      · exact ih hlast s hmem

theorem markerOf_eq (datagram : Bytes) : markerOf datagram = (planOf datagram).map (·.marker) := by
  rw [markerOf, planOf, Option.map_map]
  rfl

/-- **When an access unit ends with its marker.** For a list with something to send, the
marker is on the last datagram and on no other exactly if the last unit is not empty. -/
theorem packetize_endsMarked_iff (p : RtpPacketizer) (nals : List NalUnit) (timestamp : UInt32)
    (captureTimeNs : UInt64) (hnals : ∃ nal ∈ nals, nal ≠ []) :
    EndsMarked (p.packetize nals timestamp captureTimeNs).1 ↔ nals.getLast? ≠ some [] := by
  obtain ⟨shipments, hsends, hplans, _⟩ := p.packetize_sends timestamp captureTimeNs nals
  constructor
  · rintro ⟨front, last, hpackets, hmarker, _⟩ hempty
    have hlast : planOf last ∈ shipments.map (fun s => some s.plan) := by
      rw [← hplans, hpackets]
      simp
    obtain ⟨s, hs, hplan⟩ := List.mem_map.mp hlast
    rw [markerOf_eq, ← hplan, Option.map_some, hsends.unmarked hempty s hs] at hmarker
    cases hmarker
  · intro hlast
    obtain ⟨nal, hmem, _⟩ := hnals
    obtain ⟨front, last, rfl, hmarker, hfront⟩ :=
      hsends.marked (List.ne_nil_of_mem hmem) hlast
    rw [List.map_append, List.map_cons, List.map_nil] at hplans
    obtain ⟨before, behind, hpackets, hbefore, hbehind⟩ := List.map_eq_append_iff.mp hplans
    obtain ⟨datagram, rfl, hdatagram⟩ := List.map_eq_singleton_iff.mp hbehind
    refine ⟨before, datagram, hpackets, ?_, ?_⟩
    · rw [markerOf_eq, hdatagram, Option.map_some, hmarker]
    · intro other hother
      have hplan := List.mem_map_of_mem (f := planOf) hother
      rw [hbefore] at hplan
      obtain ⟨s, hs, hsome⟩ := List.mem_map.mp hplan
      rw [markerOf_eq, ← hsome, Option.map_some, hfront s hs]

/-- The packetizer the runs below are made with. -/
def referencePacketizer : RtpPacketizer where
  maximumDatagramBytes := 1200
  payloadType := kH264PayloadType
  sequence := 7
  ssrc := 42
  minimum_le := by decide
  le_maximum := by decide
  payloadType_le := by decide

/-- Empty units in front of the last one leave the marker where it belongs. -/
theorem packetize_endsMarked_gaps :
    let nals : List NalUnit := [[], [0x67, 1], [], [0x65, 0x88], [], [], [0x41, 0x9A]]
    nals.getLast? ≠ some [] ∧ EndsMarked (referencePacketizer.packetize nals 0 0).1 := by
  intro nals
  have hlast : nals.getLast? ≠ some [] := by decide
  exact ⟨hlast, (packetize_endsMarked_iff referencePacketizer nals 0 0 (by decide)).mpr hlast⟩

/-- An empty unit at the end takes the marker with it. -/
theorem packetize_trailingEmpty :
    ¬ EndsMarked (referencePacketizer.packetize [[0x65, 0x88], []] 0 0).1 := by
  have hmarkers : (referencePacketizer.packetize [[0x65, 0x88], []] 0 0).1.map markerOf
      = [some false] := by decide
  rintro ⟨front, last, hpackets, hmarker, _⟩
  rw [hpackets, List.map_append, List.map_cons, hmarker, List.map_nil] at hmarkers
  have hlast := congrArg List.getLast? hmarkers
  simp at hlast

/-! ## Coded slices -/

/-- A VCL unit: a coded slice or a partition of one. -/
def isVcl (nal : NalUnit) : Bool := 1 ≤ h264NalType nal && h264NalType nal ≤ 5

/-- Datagrams of a list of units, none of which carries two VCL units or parts of two. -/
def OneVclEach (m : Nat) (nals : List NalUnit) (datagrams : List Bytes) : Prop :=
  ∃ shipments, Sends m nals shipments
    ∧ datagrams.map planOf = shipments.map (fun s => some s.plan)
    ∧ ∀ s ∈ shipments, s.carried.countP isVcl ≤ 1

/-- The datagrams leave no choice of what they carry: their runs are what counts. -/
theorem OneVclEach.runs {p : RtpPacketizer} {nals : List NalUnit} {timestamp : UInt32}
    {captureTimeNs : UInt64}
    (h : OneVclEach p.maximumPayload nals (p.packetize nals timestamp captureTimeNs).1) :
    ∀ run ∈ runs p.maximumPayload 0 nals, run.countP isVcl ≤ 1 := by
  obtain ⟨shipments, hsends, hplans, hruns⟩ := p.packetize_sends timestamp captureTimeNs nals
  obtain ⟨shipments', hsends', hplans', hone⟩ := h
  have hsame : shipments = shipments' := by
    refine hsends.unique hsends' ?_
    have hsome : ∀ xs : List Shipment,
        xs.map (fun s => some s.plan) = (xs.map (·.plan)).map some := by simp
    rw [hplans, hsome, hsome] at hplans'
    exact List.map_injective_iff.mpr (Option.some_injective _) hplans'
  rw [← hsame] at hone
  exact (hruns (fun units => units.countP isVcl ≤ 1)
    fun units hunits => List.countP_le_length.trans hunits).mp hone

/-- **When no datagram carries two coded slices.** The aggregation goes by size alone, so this
is exactly when no run of units that fit one packet together has two VCL units. -/
theorem packetize_oneVclEach_iff (p : RtpPacketizer) (nals : List NalUnit) (timestamp : UInt32)
    (captureTimeNs : UInt64) :
    OneVclEach p.maximumPayload nals (p.packetize nals timestamp captureTimeNs).1
      ↔ ∀ run ∈ runs p.maximumPayload 0 nals, run.countP isVcl ≤ 1 := by
  constructor
  · exact OneVclEach.runs
  · intro hone
    obtain ⟨shipments, hsends, hplans, hruns⟩ := p.packetize_sends timestamp captureTimeNs nals
    refine ⟨shipments, hsends, hplans, ?_⟩
    exact (hruns (fun units => units.countP isVcl ≤ 1)
      fun units hunits => List.countP_le_length.trans hunits).mpr hone

/-- Two slices of four bytes share a datagram. -/
theorem packetize_twoSlices :
    ¬ OneVclEach referencePacketizer.maximumPayload
      [[0x65, 0x88, 0x84, 0x00], [0x65, 0x04, 0x62, 0x20]]
      (referencePacketizer.packetize
        [[0x65, 0x88, 0x84, 0x00], [0x65, 0x04, 0x62, 0x20]] 0 0).1 := by
  intro h
  have htwo : ¬ ∀ run ∈ runs referencePacketizer.maximumPayload 0
      [[0x65, 0x88, 0x84, 0x00], [0x65, 0x04, 0x62, 0x20]], run.countP isVcl ≤ 1 := by decide
  exact htwo h.runs

end Ipmx.Rtp
