/-
Ipmx.Rtp.Reassembly — one access unit in flight, and the reassembly of it.

A `Flight` is an access unit after `packetize` as the receiver parses it: the
packets numbered consecutively from `sequence`, all with one timestamp. Every
flight carries the proof that its packets send exactly its units
(`Remaining`), so the theorems about it need no hypothesis of their own.

`Collecting f d i final` is the invariant: after packet `i` of the flight the
depacketizer is undamaged and on its way to collecting `final`. The step
lemmas say what `push` makes of the next packet of the flight
(`Collecting.push_next`), of any other one (`Collecting.push_gap`), of a
packet that starts a timestamp (`push_first`) and of a packet for a damaged
unit (`Damaged.push`).
-/
import Ipmx.Rtp.DepacketizerTheorems

namespace Ipmx.Rtp

open H264

/-- An access unit on the wire. -/
structure Flight where
  timestamp : UInt32
  captureTimeNs : UInt64
  ssrc : UInt32
  sequence : UInt16
  nals : List NalUnit
  plans : List PacketPlan
  sends : Remaining none nals plans

namespace Flight

/-- Packet `i` of the flight. -/
def packet (f : Flight) (i : Nat) (plan : PacketPlan) : ParsedRtpPacket where
  sequence := f.sequence + UInt16.ofNat i
  timestamp := f.timestamp
  ssrc := f.ssrc
  payloadType := kH264PayloadType
  marker := plan.marker
  captureTimeNs := f.captureTimeNs
  payload := plan.payload

def packets (f : Flight) : List ParsedRtpPacket :=
  f.plans.zipIdx.map fun (plan, i) => f.packet i plan

@[simp] theorem length_packets (f : Flight) : f.packets.length = f.plans.length := by
  simp [packets]

theorem getElem_packets (f : Flight) (i : Nat) (h : i < f.plans.length)
    (h' : i < f.packets.length) : f.packets[i] = f.packet i f.plans[i] := by
  simp [packets]

theorem mem_packets {f : Flight} {packet : ParsedRtpPacket} (h : packet ∈ f.packets) :
    ∃ i, ∃ hi : i < f.plans.length, packet = f.packet i f.plans[i] := by
  obtain ⟨i, hi, heq⟩ := List.mem_iff_getElem.mp h
  have hi' : i < f.plans.length := by simpa using hi
  exact ⟨i, hi', by rw [← heq, f.getElem_packets i hi' hi]⟩

/-- Consecutive packets have consecutive sequence numbers, in a flight of any length. -/
theorem sequence_succ (f : Flight) (i : Nat) :
    (f.sequence + UInt16.ofNat i) + 1 = f.sequence + UInt16.ofNat (i + 1) := by
  rw [UInt16.ofNat_add, UInt16.add_assoc]
  rfl

/-- Within 65536 packets the sequence number determines the position. -/
theorem sequence_succ_iff (f : Flight) {i j : Nat} (hi : i + 1 < 65536) (hj : j < 65536) :
    (f.sequence + UInt16.ofNat i) + 1 = f.sequence + UInt16.ofNat j ↔ j = i + 1 := by
  constructor
  · intro h
    have hnum := congrArg UInt16.toNat h
    simp only [UInt16.toNat_add, UInt16.toNat_ofNat', UInt16.toNat_one] at hnum
    have hs := f.sequence.toNat_lt
    omega
  · rintro rfl
    exact f.sequence_succ i

end Flight

theorem Flight.payload_ne_nil (f : Flight) {i : Nat} (hi : i < f.plans.length) :
    f.plans[i].payload ≠ [] := by
  obtain ⟨cur, rest, hr, _⟩ := f.sends.drop i
  rw [List.drop_eq_getElem_cons hi] at hr
  exact hr.payload_ne_nil

theorem Flight.marker_eq (f : Flight) {i : Nat} (hi : i < f.plans.length) :
    f.plans[i].marker = decide (¬ i + 1 < f.plans.length) := by
  obtain ⟨cur, rest, hr, _⟩ := f.sends.drop i
  rw [List.drop_eq_getElem_cons hi] at hr
  rw [hr.marker_eq, Bool.eq_iff_iff, List.isEmpty_iff, List.drop_eq_nil_iff, decide_eq_true_eq]
  omega

/-! ## The invariant -/

/-- The depacketizer is inside the timestamp of the flight. -/
structure Follows (f : Flight) (d : H264Depacketizer) : Prop where
  active : d.active = true
  timestamp : d.timestamp = f.timestamp

/-- Undamaged after packet `i`, with `final` the units it will have at the marker. -/
structure Collecting (f : Flight) (d : H264Depacketizer) (i : Nat)
    (final : List NalUnit) : Prop extends Follows f d where
  captureTimeNs : d.captureTimeNs = f.captureTimeNs
  lastSequence : d.lastSequence = f.sequence + UInt16.ofNat i
  holds : ∃ cur rest taken, Remaining cur rest (f.plans.drop (i + 1)) ∧ Holds d taken cur
    ∧ (taken ≠ [] ∨ cur.isSome) ∧ taken ++ owed cur rest = final

/-- Damaged: nothing will be returned for this timestamp. -/
structure Damaged (f : Flight) (d : H264Depacketizer) : Prop extends Follows f d where
  damaged : d.damaged = true

/-- What `push` may do with packet `i` of a flight while `final` is being collected. -/
def Outcome (f : Flight) (i : Nat) (final : List NalUnit)
    (result : Option CompletedAccessUnit × H264Depacketizer) : Prop :=
  if i + 1 < f.plans.length then
    result.1 = none
      ∧ (Collecting f result.2 i final ∨ Damaged f result.2 ∧ ¬ WithinLimits final)
  else
    result.2.active = false
      ∧ (result.1 = some ⟨f.timestamp, f.captureTimeNs, buildAnnexB final⟩ ∧ WithinLimits final
        ∨ result.1 = none ∧ ¬ WithinLimits final)

/-! ## The stages of `push` -/

theorem push_packet (f : Flight) (d : H264Depacketizer) (i : Nat) {plan : PacketPlan}
    (h : plan.payload ≠ []) :
    d.push (f.packet i plan)
      = ((d.beginPacket (f.packet i plan)).storePayload plan.payload).finishPacket
          plan.marker :=
  d.push_accepted rfl h

/-- A packet of another timestamp, or after a reset, starts from nothing. -/
theorem beginPacket_restart (f : Flight) {d : H264Depacketizer} (i : Nat) (plan : PacketPlan)
    (h : d.active = false ∨ d.timestamp ≠ f.timestamp) :
    d.beginPacket (f.packet i plan)
      = { active := true, fragmented := false, damaged := false, timestamp := f.timestamp
          captureTimeNs := f.captureTimeNs, lastSequence := f.sequence + UInt16.ofNat i
          accumulatedBytes := 0, nals := [], fragment := [] } :=
  H264Depacketizer.beginPacket_restart (f.packet i plan) h

theorem beginPacket_follows (f : Flight) {d : H264Depacketizer} (i : Nat) (plan : PacketPlan)
    (h : Follows f d) :
    d.beginPacket (f.packet i plan)
      = { d with
          captureTimeNs := if d.captureTimeNs = 0 then f.captureTimeNs else d.captureTimeNs
          damaged := d.damaged || decide ((d.fragmented ∨ d.nals ≠ [])
            ∧ d.lastSequence + 1 ≠ f.sequence + UInt16.ofNat i)
          lastSequence := f.sequence + UInt16.ofNat i } :=
  H264Depacketizer.beginPacket_follows (f.packet i plan) h.active h.timestamp

/-- The marker on a damaged unit drops it. -/
theorem finishPacket_damaged {d : H264Depacketizer} (h : d.damaged = true) :
    (d.finishPacket true).1 = none ∧ (d.finishPacket true).2.active = false := by
  have hdamaged : (if d.fragmented then { d with damaged := true } else d).damaged = true := by
    split
    · rfl
    · exact h
  simp only [H264Depacketizer.finishPacket, Bool.not_true, Bool.false_eq_true, if_false]
  rw [if_pos (.inl hdamaged)]
  exact ⟨rfl, rfl⟩

/-- The marker on a complete unit returns it. -/
theorem finishPacket_holds {d : H264Depacketizer} {taken : List NalUnit}
    (h : Holds d taken none) (hne : taken ≠ []) :
    d.finishPacket true = (some ⟨d.timestamp, d.captureTimeNs, buildAnnexB taken⟩, d.reset) := by
  have hfragmented : d.fragmented = false := h.fragmented
  simp [H264Depacketizer.finishPacket, hfragmented, h.undamaged, h.nals, hne]

/-- Storing and finishing packet `i` when the sender's position is matched. -/
theorem outcome_of_holds (f : Flight) {b : H264Depacketizer} {i : Nat}
    (hi : i < f.plans.length) (hactive : b.active = true) (htimestamp : b.timestamp = f.timestamp)
    (hcapture : b.captureTimeNs = f.captureTimeNs)
    (hsequence : b.lastSequence = f.sequence + UInt16.ofNat i)
    {cur : Option (NalUnit × Bytes)} {rest taken : List NalUnit}
    (hr : Remaining cur rest (f.plans.drop i)) (h : Holds b taken cur) :
    Outcome f i (taken ++ owed cur rest)
      ((b.storePayload f.plans[i].payload).finishPacket f.plans[i].marker) := by
  rw [List.drop_eq_getElem_cons hi] at hr
  obtain ⟨cur', rest', taken', later, howed, hsome, hstored⟩ := h.store hr
  have hframe := H264Depacketizer.storePayload_frame b f.plans[i].payload
  generalize b.storePayload f.plans[i].payload = s at *
  rw [f.marker_eq hi]
  unfold Outcome
  split
  · next hmore =>
    have hfollows : Follows f s :=
      ⟨hframe.active.trans hactive, hframe.timestamp.trans htimestamp⟩
    simp only [H264Depacketizer.finishPacket, hmore, not_true, decide_false, Bool.not_false,
      if_true, true_and]
    rcases hstored with hholds | ⟨hdamaged, hexceeds⟩
    · exact .inl ⟨hfollows, hframe.captureTimeNs.trans hcapture,
        hframe.lastSequence.trans hsequence, cur', rest', taken', later, hholds, hsome, howed⟩
    · exact .inr ⟨⟨hfollows, hdamaged⟩, hexceeds⟩
  · next hlast =>
    have hempty : f.plans.drop (i + 1) = [] := List.drop_eq_nil_of_le (by omega)
    have hend := later.isEmpty_eq
    rw [hempty, List.isEmpty_nil] at hend
    obtain ⟨hcur, hrest⟩ := Bool.and_eq_true_iff.mp hend.symm
    rw [Option.isNone_iff_eq_none] at hcur
    rw [List.isEmpty_iff] at hrest
    subst hcur hrest
    simp only [owed_none, List.append_nil, Option.isSome_none, Bool.false_eq_true, or_false]
      at howed hsome
    rw [decide_eq_true hlast]
    rcases hstored with hholds | ⟨hdamaged, hexceeds⟩
    · rw [finishPacket_holds hholds hsome, ← howed, hframe.timestamp, htimestamp,
        hframe.captureTimeNs, hcapture]
      exact ⟨rfl, .inl ⟨rfl, hholds.limits⟩⟩
    · obtain ⟨hnone, hreset⟩ := finishPacket_damaged hdamaged
      exact ⟨hreset, .inr ⟨hnone, hexceeds⟩⟩

/-! ## The step lemmas -/

/-- A state that has collected nothing yet. -/
theorem holds_nil {d : H264Depacketizer} (hdamaged : d.damaged = false) (hnals : d.nals = [])
    (hbytes : d.accumulatedBytes = 0) (hfragmented : d.fragmented = false) :
    Holds d [] none :=
  ⟨hdamaged, hnals, hbytes, .nil, hfragmented, fun _ _ hcur => nomatch hcur⟩

/-- What `push` does with packet `i` of a unit that is lost. -/
def Rejected (f : Flight) (i : Nat)
    (result : Option CompletedAccessUnit × H264Depacketizer) : Prop :=
  result.1 = none
    ∧ if i + 1 < f.plans.length then Damaged f result.2 else result.2.active = false

theorem rejected_of_damaged {f : Flight} {s : H264Depacketizer} {i : Nat}
    (hi : i < f.plans.length) (hs : Damaged f s) :
    Rejected f i (s.finishPacket f.plans[i].marker) := by
  rw [f.marker_eq hi, Rejected]
  by_cases hmore : i + 1 < f.plans.length
  · simpa [hmore, H264Depacketizer.finishPacket] using hs
  · simpa [hmore] using finishPacket_damaged hs.damaged

/-- Damage that is there before the payload is looked at. -/
theorem rejected_of_begin {f : Flight} {b : H264Depacketizer} {i : Nat}
    (hi : i < f.plans.length) (hb : Damaged f b) :
    Rejected f i ((b.storePayload f.plans[i].payload).finishPacket f.plans[i].marker) := by
  have hframe := H264Depacketizer.storePayload_frame b f.plans[i].payload
  exact rejected_of_damaged hi
    ⟨⟨hframe.active.trans hb.active, hframe.timestamp.trans hb.timestamp⟩,
     hframe.damaged hb.damaged⟩

/-- A damaged unit stays damaged up to its marker and is then dropped. -/
theorem Damaged.push {f : Flight} {d : H264Depacketizer} (h : Damaged f d) {i : Nat}
    (hi : i < f.plans.length) : Rejected f i (d.push (f.packet i f.plans[i])) := by
  rw [push_packet f d i (f.payload_ne_nil hi), beginPacket_follows f i _ h.toFollows]
  exact rejected_of_begin hi ⟨⟨h.active, h.timestamp⟩, by simp [h.damaged]⟩

/-- A packet of the flight that is not the next one damages the unit. -/
theorem Collecting.push_gap {f : Flight} {d : H264Depacketizer} {i j : Nat}
    {final : List NalUnit} (h : Collecting f d i final) (hlength : f.plans.length ≤ 65536)
    (hi : i + 1 < f.plans.length) (hj : j < f.plans.length) (hgap : j ≠ i + 1) :
    Rejected f j (d.push (f.packet j f.plans[j])) := by
  obtain ⟨cur, rest, taken, _, hholds, hsome, _⟩ := h.holds
  have hstored : d.fragmented ∨ d.nals ≠ [] := by
    rw [hholds.fragmented, hholds.nals]
    exact hsome.symm
  have hjump : d.lastSequence + 1 ≠ f.sequence + UInt16.ofNat j := by
    rw [h.lastSequence, ne_eq, f.sequence_succ_iff (by omega) (by omega)]
    exact hgap
  rw [push_packet f d j (f.payload_ne_nil hj), beginPacket_follows f j _ h.toFollows]
  exact rejected_of_begin hj ⟨⟨h.active, h.timestamp⟩, by simp [hstored, hjump]⟩

/-- The next packet of the flight. -/
theorem Collecting.push_next {f : Flight} {d : H264Depacketizer} {i : Nat}
    {final : List NalUnit} (h : Collecting f d i final) (hi : i + 1 < f.plans.length) :
    Outcome f (i + 1) final (d.push (f.packet (i + 1) f.plans[i + 1])) := by
  obtain ⟨cur, rest, taken, hr, hholds, hsome, hfinal⟩ := h.holds
  have hconsecutive : d.lastSequence + 1 = f.sequence + UInt16.ofNat (i + 1) := by
    rw [h.lastSequence, f.sequence_succ]
  rw [push_packet f d _ (f.payload_ne_nil hi), beginPacket_follows f _ _ h.toFollows, ← hfinal]
  refine outcome_of_holds f hi ?_ ?_ ?_ ?_ hr ?_
  · exact h.active
  · exact h.timestamp
  · simp [h.captureTimeNs]
  · rfl
  · exact ⟨by simp [hholds.undamaged, hconsecutive], hholds.nals, hholds.bytes, hholds.limits,
      hholds.fragmented, hholds.fragment⟩

/-- The first packet of the flight to arrive, when it begins a unit. -/
theorem push_first {f : Flight} {d : H264Depacketizer} {i : Nat} (hi : i < f.plans.length)
    (hfresh : d.active = false ∨ d.timestamp ≠ f.timestamp) {rest : List NalUnit}
    (hr : Remaining none rest (f.plans.drop i)) :
    Outcome f i rest (d.push (f.packet i f.plans[i])) := by
  rw [push_packet f d _ (f.payload_ne_nil hi), beginPacket_restart f _ _ hfresh]
  exact outcome_of_holds f hi rfl rfl rfl rfl hr (holds_nil rfl rfl rfl rfl)

/-- The first packet of the flight to arrive, when it continues a fragment. -/
theorem push_first_orphan {f : Flight} {d : H264Depacketizer} {i : Nat}
    (hi : i < f.plans.length) (hfresh : d.active = false ∨ d.timestamp ≠ f.timestamp)
    (horphan : continuesFragment f.plans[i].payload = true) :
    Rejected f i (d.push (f.packet i f.plans[i])) := by
  rw [push_packet f d _ (f.payload_ne_nil hi), beginPacket_restart f _ _ hfresh]
  generalize hb : H264Depacketizer.mk true _ _ _ _ _ _ _ _ = b
  have hframe := H264Depacketizer.storePayload_frame b f.plans[i].payload
  subst hb
  exact rejected_of_damaged hi
    ⟨⟨hframe.active, hframe.timestamp⟩, storePayload_orphan rfl horphan⟩

end Ipmx.Rtp
