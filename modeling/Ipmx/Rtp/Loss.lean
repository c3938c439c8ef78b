/-
Ipmx.Rtp.Loss — what a stream becomes when datagrams are lost but none
overtakes another.

A run over the packets kept of one flight is followed by the two step
predicates of `Ipmx.Rtp.Reassembly`: once `Rejected`, nothing is returned for
the flight (`Rejected.pushAll`); as long as the outcome is open, the unit is
returned exactly if the rest of the flight is kept without a gap
(`Outcome.pushAll`). Continuity is checked only once something is stored, so
a run that starts late but at the beginning of a NAL is not noticed:
`UnnoticedLoss` is that case, and `returned_intact_iff` says that it is the
only one in which a damaged unit is returned.
-/
import Ipmx.Rtp.RoundTrip

namespace Ipmx.Rtp

open H264

/-! ## Packets kept of a flight -/

/-- The first packet kept, and the rest behind it. -/
theorem Flight.sublist_cases {f : Flight} {i : Nat} {kept : List ParsedRtpPacket}
    (h : kept.Sublist (f.packets.drop i)) :
    kept = [] ∨ ∃ j kept', ∃ hj : j < f.plans.length, i ≤ j
      ∧ kept = f.packet j f.plans[j] :: kept' ∧ kept'.Sublist (f.packets.drop (j + 1)) := by
  induction hleft : f.plans.length - i using Nat.strong_induction_on generalizing i with
  | _ n ih =>
    by_cases hi : i < f.plans.length
    · rw [f.drop_packets hi] at h
      cases h with
      | cons _ hrest =>
        rcases ih _ (by omega) hrest rfl with hnil | ⟨j, kept', hj, hij, hkept, hrest'⟩
        · exact .inl hnil
        · exact .inr ⟨j, kept', hj, by omega, hkept, hrest'⟩
      | cons_cons _ hrest => exact .inr ⟨i, _, hi, le_refl i, rfl, hrest⟩
    · rw [List.drop_eq_nil_of_le (by simpa using hi)] at h
      exact .inl (List.sublist_nil.mp h)

/-- A state behind a flight: a packet of another timestamp starts afresh. -/
def Settled (f : Flight) (d : H264Depacketizer) : Prop :=
  d.active = false ∨ d.timestamp = f.timestamp

/-- A rejected unit is not returned, whatever of it still arrives. -/
theorem Rejected.pushAll {f : Flight} {i : Nat}
    {result : Option CompletedAccessUnit × H264Depacketizer} (h : Rejected f i result)
    {kept : List ParsedRtpPacket} (hkept : kept.Sublist (f.packets.drop (i + 1))) :
    (result.1 :: (result.2.pushAll kept).1).filterMap id = []
      ∧ Settled f (result.2.pushAll kept).2 := by
  induction kept generalizing i result with
  | nil =>
    obtain ⟨hnone, hstate⟩ := h
    split at hstate
    · exact ⟨by simp [H264Depacketizer.pushAll, hnone], .inr hstate.timestamp⟩
    · exact ⟨by simp [H264Depacketizer.pushAll, hnone], .inl hstate⟩
  | cons packet kept ih =>
    obtain ⟨hnone, hstate⟩ := h
    rcases Flight.sublist_cases hkept with hnil | ⟨j, kept', hj, hij, heq, hrest⟩
    · exact absurd hnil (by simp)
    · obtain ⟨rfl, rfl⟩ := List.cons.inj heq
      rw [if_pos (by omega)] at hstate
      have hlater := ih (hstate.push hj) hrest
      simpa [H264Depacketizer.pushAll, hnone] using hlater

/-- The outcome where nothing more arrives. -/
theorem Outcome.pushAll_nil {f : Flight} {i : Nat} {final : List NalUnit}
    {result : Option CompletedAccessUnit × H264Depacketizer} (h : Outcome f i final result) :
    (([] = f.packets.drop (i + 1) ∧ WithinLimits final)
        ∧ result.1 = some ⟨f.timestamp, f.captureTimeNs, buildAnnexB final⟩
      ∨ ¬ ([] = f.packets.drop (i + 1) ∧ WithinLimits final) ∧ result.1 = none)
      ∧ Settled f result.2 := by
  unfold Outcome at h
  split at h
  · next hmore =>
    obtain ⟨hnone, hstate⟩ := h
    have hne : ¬ ([] = f.packets.drop (i + 1) ∧ WithinLimits final) := by
      rw [f.drop_packets hmore]
      simp
    refine ⟨.inr ⟨hne, hnone⟩, .inr ?_⟩
    rcases hstate with hcollecting | ⟨hdamaged, _⟩
    · exact hcollecting.timestamp
    · exact hdamaged.timestamp
  · next hlast =>
    obtain ⟨hactive, hresult⟩ := h
    have hnil : f.packets.drop (i + 1) = [] := List.drop_eq_nil_of_le (by simpa using hlast)
    refine ⟨?_, .inl hactive⟩
    rcases hresult with ⟨hsome, hlimits⟩ | ⟨hnone, hexceeds⟩
    · exact .inl ⟨⟨hnil.symm, hlimits⟩, hsome⟩
    · exact .inr ⟨fun hall => hexceeds hall.2, hnone⟩

/-- Behind a gap the packets kept are too few to be all the rest. -/
theorem Flight.cons_ne_drop {f : Flight} {i j : Nat} {packet : ParsedRtpPacket}
    {kept : List ParsedRtpPacket} (hrest : kept.Sublist (f.packets.drop (j + 1)))
    (hj : j < f.plans.length) (hij : i < j) : packet :: kept ≠ f.packets.drop i := by
  intro hall
  have hcount := hrest.length_le
  have hlength := congrArg List.length hall
  simp only [List.length_cons, List.length_drop, Flight.length_packets] at hcount hlength
  omega

/-- As long as the outcome is open, the unit is returned exactly if all the rest arrives. -/
theorem Outcome.pushAll {f : Flight} {i : Nat} {final : List NalUnit}
    {result : Option CompletedAccessUnit × H264Depacketizer} (h : Outcome f i final result)
    (hlength : f.plans.length ≤ 65536) {kept : List ParsedRtpPacket}
    (hkept : kept.Sublist (f.packets.drop (i + 1))) :
    ((kept = f.packets.drop (i + 1) ∧ WithinLimits final)
        ∧ (result.1 :: (result.2.pushAll kept).1).filterMap id
          = [⟨f.timestamp, f.captureTimeNs, buildAnnexB final⟩]
      ∨ ¬ (kept = f.packets.drop (i + 1) ∧ WithinLimits final)
        ∧ (result.1 :: (result.2.pushAll kept).1).filterMap id = [])
      ∧ Settled f (result.2.pushAll kept).2 := by
  induction kept generalizing i result with
  | nil =>
    obtain ⟨hreturned, hsettled⟩ := h.pushAll_nil
    refine ⟨?_, hsettled⟩
    rcases hreturned with ⟨hall, hsome⟩ | ⟨hall, hnone⟩
    · exact .inl ⟨hall, by simp [H264Depacketizer.pushAll, hsome]⟩
    · exact .inr ⟨hall, by simp [H264Depacketizer.pushAll, hnone]⟩
  | cons packet kept ih =>
    rcases Flight.sublist_cases hkept with hnil | ⟨j, kept', hj, hij, heq, hrest⟩
    · exact absurd hnil (by simp)
    · obtain ⟨rfl, rfl⟩ := List.cons.inj heq
      have hmore : i + 1 < f.plans.length := by omega
      rw [Outcome, if_pos hmore] at h
      obtain ⟨hnone, hstate⟩ := h
      simp only [H264Depacketizer.pushAll, hnone, List.filterMap_cons_none, id_eq]
      rcases hstate with hcollecting | ⟨hdamaged, hexceeds⟩
      · by_cases hnext : j = i + 1
        · subst hnext
          have hlater := ih (hcollecting.push_next hmore) hrest
          simpa [f.drop_packets hmore] using hlater
        · have hgap : f.packet j f.plans[j] :: kept ≠ f.packets.drop (i + 1) :=
            Flight.cons_ne_drop hrest hj (by omega)
          have hlater := (hcollecting.push_gap hlength hmore hj hnext).pushAll hrest
          exact ⟨.inr ⟨fun hall => hgap hall.1, hlater.1⟩, hlater.2⟩
      · have hlater := (hdamaged.push hj).pushAll hrest
        exact ⟨.inr ⟨fun hall => hexceeds hall.2, hlater.1⟩, hlater.2⟩

/-! ## One access unit -/

/-- The first packets of a unit are lost, up to a packet that begins the `k`-th NAL, and no
others: what arrives is the packetization of the NALs from there on. -/
def UnnoticedLoss (maximumPayload : Nat) (unit : AccessUnit) (packets kept : List Bytes) :
    Prop :=
  ∃ i k, 0 < i ∧ i < packets.length ∧ kept = packets.drop i
    ∧ (packetizeLoop maximumPayload 0 unit.nals).drop i
      = packetizeLoop maximumPayload 0 (unit.nals.drop k)
    ∧ WithinLimits (unit.nals.drop k)

/-- Up to 65536 packets, the packets of a flight are distinct. -/
theorem Flight.nodup_packets (f : Flight) (hlength : f.plans.length ≤ 65536) :
    f.packets.Nodup := by
  refine List.pairwise_iff_getElem.mpr ?_
  intro i j hi hj hij heq
  have hi' : i < f.plans.length := by simpa using hi
  have hj' : j < f.plans.length := by simpa using hj
  rw [f.getElem_packets i hi', f.getElem_packets j hj'] at heq
  have hsequence : f.sequence + UInt16.ofNat i = f.sequence + UInt16.ofNat j :=
    congrArg ParsedRtpPacket.sequence heq
  have hnum := congrArg UInt16.toNat hsequence
  simp only [UInt16.toNat_add, UInt16.toNat_ofNat'] at hnum
  omega

/-- A sublist is a tail if its image under a map that separates the elements is. -/
theorem eq_drop_of_map_eq {α β : Type} {g : α → β} {xs l : List α} {i : Nat}
    (hnodup : (l.map g).Nodup) (hsub : xs.Sublist l) (h : xs.map g = (l.drop i).map g) :
    xs = l.drop i := by
  have hinj := List.inj_on_of_nodup_map hnodup
  have hlen : xs.length = (l.drop i).length := by simpa using congrArg List.length h
  refine List.ext_getElem hlen ?_
  intro j hj hj'
  refine hinj (hsub.subset (List.getElem_mem hj)) (List.mem_of_mem_drop (List.getElem_mem hj')) ?_
  have hj'' : j < (xs.map g).length := by simpa using hj
  have hget := List.getElem_of_eq h hj''
  simpa using hget

namespace H264Depacketizer

theorem returned_eq_pushAll (d : H264Depacketizer) {datagrams : List Bytes}
    {packets : List ParsedRtpPacket} (h : datagrams.map parseRtpPacket = packets.map some) :
    d.returned datagrams = (d.pushAll packets).1.filterMap id := by
  rw [returned, d.receiveAll_eq_pushAll _ _ h, List.filterMap_map]
  rfl

theorem returned_append (d : H264Depacketizer) (xs ys : List Bytes) :
    d.returned (xs ++ ys) = d.returned xs ++ (d.receiveAll xs).2.returned ys := by
  simp [returned, receiveAll_append]

end H264Depacketizer

/-- What the first packet to arrive of a unit leaves open: nothing, or the unit from the NAL
that this packet begins. -/
theorem RtpPacketizer.push_first_cases (p : RtpPacketizer) (unit : AccessUnit)
    {d : H264Depacketizer} (hfresh : d.active = false ∨ d.timestamp ≠ unit.timestamp) {i : Nat}
    (hi : i < (p.flight unit).plans.length) :
    Rejected (p.flight unit) i (d.push ((p.flight unit).packet i (p.flight unit).plans[i]))
      ∨ ∃ k, (i = 0 → k = 0)
        ∧ (packetizeLoop p.maximumPayload 0 unit.nals).drop i
          = packetizeLoop p.maximumPayload 0 (unit.nals.drop k)
        ∧ Outcome (p.flight unit) i (unit.nals.drop k)
          (d.push ((p.flight unit).packet i (p.flight unit).plans[i])) := by
  by_cases horphan : continuesFragment (p.flight unit).plans[i].payload = true
  · exact .inl (push_first_orphan hi hfresh horphan)
  · have hrestart : ∃ k, (i = 0 → k = 0)
        ∧ (packetizeLoop p.maximumPayload 0 unit.nals).drop i
          = packetizeLoop p.maximumPayload 0 (unit.nals.drop k) := by
      by_cases hzero : i = 0
      · exact ⟨0, fun _ => rfl, by simp [hzero]⟩
      · obtain ⟨k, hk⟩ := packetizeLoop_drop p.maximumPayload unit.nals i (by
          intro plan hplan
          have hhead : (packetizeLoop p.maximumPayload 0 unit.nals)[i]? = some plan := by
            rwa [List.head?_drop] at hplan
          obtain ⟨_, rfl⟩ := List.getElem?_eq_some_iff.mp hhead
          exact eq_false_of_ne_true horphan)
        exact ⟨k, fun h => absurd h hzero, hk⟩
    obtain ⟨k, hzero, hk⟩ := hrestart
    refine .inr ⟨k, hzero, hk, push_first hi hfresh ?_⟩
    show Remaining _ _ ((packetizeLoop p.maximumPayload 0 unit.nals).drop i)
    rw [hk]
    exact packetizeLoop_remaining p.maximumPayload_ge p.maximumPayload_le _
      fun nal hnal => unit.carriable nal (List.mem_of_mem_drop hnal)

/-- The packets of the datagrams kept of a unit. -/
theorem RtpPacketizer.kept_parse (p : RtpPacketizer) (htype : p.payloadType = kH264PayloadType)
    {unit : AccessUnit} {kept : List Bytes}
    (hkept : kept.Sublist (p.packetize unit.nals unit.timestamp unit.captureTimeNs).1) :
    ∃ packets : List ParsedRtpPacket, packets.Sublist (p.flight unit).packets
      ∧ kept.map parseRtpPacket = packets.map some := by
  have hparse := hkept.map parseRtpPacket
  rwa [p.packetize_parse htype unit, List.sublist_map_iff] at hparse

section Unit

variable (p : RtpPacketizer) (htype : p.payloadType = kH264PayloadType) (unit : AccessUnit)
  (hlength : (p.packetize unit.nals unit.timestamp unit.captureTimeNs).1.length ≤ 65536)
  {d : H264Depacketizer} (hfresh : d.active = false ∨ d.timestamp ≠ unit.timestamp)

include htype hlength hfresh

/-- A loss that is not noticed: the NALs that arrived are returned as the unit. -/
theorem returned_of_unnoticed {kept : List Bytes}
    (h : UnnoticedLoss p.maximumPayload unit
      (p.packetize unit.nals unit.timestamp unit.captureTimeNs).1 kept) :
    ∃ k, d.returned kept
      = [⟨unit.timestamp, unit.captureTimeNs, buildAnnexB (unit.nals.drop k)⟩] := by
  obtain ⟨i, k, hpos, hi, hkept, hplans, hlimits⟩ := h
  have hi' : i < (p.flight unit).plans.length := by rwa [← p.packetize_length unit]
  have hparse : kept.map parseRtpPacket = ((p.flight unit).packets.drop i).map some := by
    rw [hkept, List.map_drop, p.packetize_parse htype unit, List.map_drop]
  have hr : Remaining none (unit.nals.drop k) ((p.flight unit).plans.drop i) := by
    show Remaining _ _ ((packetizeLoop p.maximumPayload 0 unit.nals).drop i)
    rw [hplans]
    exact packetizeLoop_remaining p.maximumPayload_ge p.maximumPayload_le _
      fun nal hnal => unit.carriable nal (List.mem_of_mem_drop hnal)
  have hrun := (push_first hi' hfresh hr).pushAll (by rwa [← p.packetize_length unit])
    (List.Sublist.refl _)
  refine ⟨k, ?_⟩
  rw [d.returned_eq_pushAll hparse, (p.flight unit).drop_packets hi']
  rcases hrun.1 with ⟨_, hresult⟩ | ⟨hnot, _⟩
  · exact hresult
  · exact absurd ⟨rfl, hlimits⟩ hnot

/-- Any other loss: nothing is returned unless every packet arrived. -/
theorem returned_of_noticed {kept : List Bytes}
    (hkept : kept.Sublist (p.packetize unit.nals unit.timestamp unit.captureTimeNs).1)
    (h : ¬ UnnoticedLoss p.maximumPayload unit
      (p.packetize unit.nals unit.timestamp unit.captureTimeNs).1 kept) :
    d.returned kept = []
      ∨ kept = (p.packetize unit.nals unit.timestamp unit.captureTimeNs).1
        ∧ d.returned kept = [unit.completed] := by
  have hcount : (p.flight unit).plans.length ≤ 65536 := by rwa [← p.packetize_length unit]
  obtain ⟨packets, hpackets, hparse⟩ := p.kept_parse htype hkept
  rw [d.returned_eq_pushAll hparse]
  rcases Flight.sublist_cases (i := 0) hpackets with rfl | ⟨i, rest, hi, _, rfl, hrest⟩
  · exact .inl rfl
  · rcases p.push_first_cases unit hfresh hi with hrejected | ⟨k, hzero, hplans, houtcome⟩
    · exact .inl (hrejected.pushAll hrest).1
    · rcases (houtcome.pushAll hcount hrest).1 with ⟨⟨hall, hlimits⟩, hresult⟩ | ⟨_, hnothing⟩
      · have hdrop : kept
            = (p.packetize unit.nals unit.timestamp unit.captureTimeNs).1.drop i := by
          refine eq_drop_of_map_eq (g := parseRtpPacket) ?_ hkept ?_
          · rw [p.packetize_parse htype unit]
            exact ((p.flight unit).nodup_packets hcount).map (Option.some_injective _)
          · rw [hparse, hall, ← Flight.drop_packets _ hi, List.map_drop,
              ← p.packetize_parse htype unit, List.map_drop]
        rcases Nat.eq_zero_or_pos i with rfl | hpos
        · refine .inr ⟨by simpa using hdrop, ?_⟩
          rw [hzero rfl, List.drop_zero] at hresult
          exact hresult
        · have hi' : i < (p.packetize unit.nals unit.timestamp unit.captureTimeNs).1.length := by
            rwa [p.packetize_length unit]
          exact absurd ⟨i, k, hpos, hi', hdrop, hplans, hlimits⟩ h
      · exact .inl hnothing

/-- Behind the datagrams of a unit, every other timestamp starts afresh. -/
theorem settled_of_kept {kept : List Bytes}
    (hkept : kept.Sublist (p.packetize unit.nals unit.timestamp unit.captureTimeNs).1) :
    (d.receiveAll kept).2 = d ∨ Settled (p.flight unit) (d.receiveAll kept).2 := by
  have hcount : (p.flight unit).plans.length ≤ 65536 := by rwa [← p.packetize_length unit]
  obtain ⟨packets, hpackets, hparse⟩ := p.kept_parse htype hkept
  rw [d.receiveAll_eq_pushAll _ _ hparse]
  rcases Flight.sublist_cases (i := 0) hpackets with rfl | ⟨i, rest, hi, _, rfl, hrest⟩
  · exact .inl rfl
  · right
    rcases p.push_first_cases unit hfresh hi with hrejected | ⟨k, _, _, houtcome⟩
    · exact (hrejected.pushAll hrest).2
    · exact (houtcome.pushAll hcount hrest).2

end Unit

/-! ## Foreign payload types -/

/-- A depacketizer ignores packets of another payload type. -/
theorem H264Depacketizer.receive_foreign (d : H264Depacketizer) {datagram : Bytes}
    (h : ∀ packet, parseRtpPacket datagram = some packet →
      packet.payloadType ≠ kH264PayloadType) :
    (d.receive datagram).1.join = none ∧ (d.receive datagram).2 = d := by
  unfold receive
  cases hparse : parseRtpPacket datagram with
  | none => exact ⟨rfl, rfl⟩
  | some packet =>
    have hpush : d.push packet = (none, d) := if_pos (.inl (h packet hparse))
    simp [hpush]

theorem H264Depacketizer.returned_foreign (d : H264Depacketizer) {datagrams : List Bytes}
    (h : ∀ datagram ∈ datagrams, ∀ packet, parseRtpPacket datagram = some packet →
      packet.payloadType ≠ kH264PayloadType) : d.returned datagrams = [] := by
  induction datagrams generalizing d with
  | nil => rfl
  | cons datagram datagrams ih =>
    obtain ⟨hnone, hstate⟩ := d.receive_foreign (h datagram (by simp))
    have hrest := ih d fun x hx => h x (List.mem_cons_of_mem _ hx)
    unfold returned at hrest ⊢
    simp only [receiveAll, hstate]
    rw [List.filterMap_cons, hnone]
    exact hrest

/-- Every datagram of a stream has the packetizer's payload type. -/
theorem RtpPacketizer.packetizeAll_payloadType (p : RtpPacketizer) (units : List AccessUnit) :
    ∀ datagram ∈ (p.packetizeAll units).flatten, ∀ packet,
      parseRtpPacket datagram = some packet → packet.payloadType = p.payloadType := by
  induction units generalizing p with
  | nil => simp [RtpPacketizer.packetizeAll]
  | cons unit units ih =>
    intro datagram hdatagram packet hpacket
    rw [RtpPacketizer.packetizeAll, List.flatten_cons, List.mem_append] at hdatagram
    rcases hdatagram with hhead | htail
    · have hmem := List.mem_map_of_mem (f := parseRtpPacket) hhead
      rw [p.packetize_parse_any unit, hpacket] at hmem
      obtain ⟨sent, _, heq⟩ := List.mem_map.mp hmem
      rw [← Option.some.inj heq]
    · have hnext := ih _ datagram htail packet hpacket
      rwa [p.packetize_snd] at hnext

/-! ## The stream -/

theorem flatten_sublist_flatten {α : Type} {xs ys : List (List α)}
    (h : List.Forall₂ List.Sublist xs ys) : xs.flatten.Sublist ys.flatten := by
  induction h with
  | nil => exact .slnil
  | cons hfirst _ ih => exact hfirst.append ih

/-- What becomes of each unit of a stream, unit by unit. -/
inductive Fates (maximumPayload : Nat) : List AccessUnit → List (List Bytes) →
    List (List Bytes) → List CompletedAccessUnit → Prop
  | nil : Fates maximumPayload [] [] [] []
  | unnoticed {unit : AccessUnit} {packets kept : List Bytes} {units sent keeps returned}
      (h : UnnoticedLoss maximumPayload unit packets kept) (k : Nat)
      (later : Fates maximumPayload units sent keeps returned) :
      Fates maximumPayload (unit :: units) (packets :: sent) (kept :: keeps)
        (⟨unit.timestamp, unit.captureTimeNs, buildAnnexB (unit.nals.drop k)⟩ :: returned)
  | complete {unit : AccessUnit} {packets : List Bytes} {units sent keeps returned}
      (h : ¬ UnnoticedLoss maximumPayload unit packets packets)
      (later : Fates maximumPayload units sent keeps returned) :
      Fates maximumPayload (unit :: units) (packets :: sent) (packets :: keeps)
        (unit.completed :: returned)
  | dropped {unit : AccessUnit} {packets kept : List Bytes} {units sent keeps returned}
      (h : ¬ UnnoticedLoss maximumPayload unit packets kept)
      (later : Fates maximumPayload units sent keeps returned) :
      Fates maximumPayload (unit :: units) (packets :: sent) (kept :: keeps) returned

/-- The run over a stream that lost datagrams. -/
theorem fates_of_kept (p : RtpPacketizer) (htype : p.payloadType = kH264PayloadType)
    {units : List AccessUnit} {kept : List (List Bytes)}
    (htimestamps : (units.map AccessUnit.timestamp).Nodup)
    (hlength : ∀ packets ∈ p.packetizeAll units, packets.length ≤ 65536)
    (hkept : List.Forall₂ List.Sublist kept (p.packetizeAll units)) {d : H264Depacketizer}
    (hfresh : ∀ unit ∈ units, d.active = false ∨ d.timestamp ≠ unit.timestamp) :
    Fates p.maximumPayload units (p.packetizeAll units) kept (d.returned kept.flatten) := by
  induction units generalizing p kept d with
  | nil =>
    obtain rfl := List.forall₂_nil_right_iff.mp hkept
    exact .nil
  | cons unit units ih =>
    obtain ⟨first, keeps, hfirst, hkeeps, rfl⟩ := List.forall₂_cons_right_iff.mp hkept
    rw [List.map_cons, List.nodup_cons] at htimestamps
    have hhead := hlength _ (List.mem_cons_self ..)
    have hnow := hfresh unit (by simp)
    have hnext : (p.packetize unit.nals unit.timestamp unit.captureTimeNs).2.payloadType
        = kH264PayloadType := by
      rw [p.packetize_snd]; exact htype
    have hfresh' : ∀ u ∈ units, (d.receiveAll first).2.active = false
        ∨ (d.receiveAll first).2.timestamp ≠ u.timestamp := by
      intro u hu
      rcases settled_of_kept p htype unit hhead hnow hfirst with hsame | hidle | hthis
      · rw [hsame]
        exact hfresh u (List.mem_cons_of_mem _ hu)
      · exact .inl hidle
      · refine .inr fun heq => htimestamps.1 ?_
        have hsame : unit.timestamp = u.timestamp := hthis.symm.trans heq
        exact hsame ▸ List.mem_map_of_mem hu
    have hlater := ih _ hnext htimestamps.2
      (fun packets hpackets => hlength packets (List.mem_cons_of_mem _ hpackets)) hkeeps hfresh'
    have hbudget : (p.packetize unit.nals unit.timestamp unit.captureTimeNs).2.maximumPayload
        = p.maximumPayload := by
      rw [p.packetize_snd]; rfl
    rw [hbudget] at hlater
    rw [List.flatten_cons, d.returned_append]
    by_cases hloss : UnnoticedLoss p.maximumPayload unit
        (p.packetize unit.nals unit.timestamp unit.captureTimeNs).1 first
    · obtain ⟨k, hresult⟩ := returned_of_unnoticed p htype unit hhead hnow hloss
      rw [hresult]
      exact .unnoticed hloss k hlater
    · rcases returned_of_noticed p htype unit hhead hnow hfirst hloss with hnone | ⟨rfl, hwhole⟩
      · rw [hnone]
        exact .dropped hloss hlater
      · rw [hwhole]
        exact .complete hloss hlater

/-- What is returned are units that were sent, each complete, in sending order and once; and
no unit that lost a datagram is among them. -/
structure Intact (units : List AccessUnit) (sent kept : List (List Bytes))
    (returned : List CompletedAccessUnit) : Prop where
  sublist : returned.Sublist (units.map AccessUnit.completed)
  lost : ∀ x ∈ units.zip (sent.zip kept), x.2.2 ≠ x.2.1 →
    ∀ completed ∈ returned, completed.timestamp ≠ x.1.timestamp

theorem Fates.timestamp_mem {m : Nat} {units : List AccessUnit} {sent kept : List (List Bytes)}
    {returned : List CompletedAccessUnit} (h : Fates m units sent kept returned) :
    ∀ completed ∈ returned, completed.timestamp ∈ units.map AccessUnit.timestamp := by
  induction h with
  | nil => simp
  | unnoticed _ _ _ ih =>
    intro completed hmem
    rcases List.mem_cons.mp hmem with rfl | hmem
    · simp
    · exact List.mem_cons_of_mem _ (ih completed hmem)
  | complete _ _ ih =>
    intro completed hmem
    rcases List.mem_cons.mp hmem with rfl | hmem
    · simp [AccessUnit.completed]
    · exact List.mem_cons_of_mem _ (ih completed hmem)
  | dropped _ _ ih => exact fun completed hmem => List.mem_cons_of_mem _ (ih completed hmem)

/-- An unnoticed loss returns something under the timestamp of the unit. -/
theorem Fates.returned_of_unnoticed {m : Nat} {units : List AccessUnit}
    {sent kept : List (List Bytes)} {returned : List CompletedAccessUnit}
    (h : Fates m units sent kept returned) :
    ∀ x ∈ units.zip (sent.zip kept), UnnoticedLoss m x.1 x.2.1 x.2.2 →
      ∃ completed ∈ returned, completed.timestamp = x.1.timestamp := by
  induction h with
  | nil => simp
  | @unnoticed unit _ _ _ _ _ _ _ _ _ ih =>
    intro x hx hloss
    rcases List.mem_cons.mp hx with rfl | hx
    · exact ⟨_, List.mem_cons_self .., rfl⟩
    · obtain ⟨completed, hmem, heq⟩ := ih x hx hloss
      exact ⟨completed, List.mem_cons_of_mem _ hmem, heq⟩
  | complete hno _ ih =>
    intro x hx hloss
    rcases List.mem_cons.mp hx with rfl | hx
    · exact absurd hloss hno
    · obtain ⟨completed, hmem, heq⟩ := ih x hx hloss
      exact ⟨completed, List.mem_cons_of_mem _ hmem, heq⟩
  | dropped hno _ ih =>
    intro x hx hloss
    rcases List.mem_cons.mp hx with rfl | hx
    · exact absurd hloss hno
    · exact ih x hx hloss

/-- Without unnoticed losses the run returns intact units only. -/
theorem Fates.intact {m : Nat} {units : List AccessUnit} {sent kept : List (List Bytes)}
    {returned : List CompletedAccessUnit} (h : Fates m units sent kept returned)
    (htimestamps : (units.map AccessUnit.timestamp).Nodup)
    (hnone : ∀ x ∈ units.zip (sent.zip kept), ¬ UnnoticedLoss m x.1 x.2.1 x.2.2) :
    Intact units sent kept returned := by
  induction h with
  | nil => exact ⟨List.nil_sublist _, by simp⟩
  | unnoticed hloss _ _ _ => exact absurd hloss (hnone _ (List.mem_cons_self ..))
  | @complete unit packets units sent keeps returned _ later ih =>
    rw [List.map_cons, List.nodup_cons] at htimestamps
    obtain ⟨hsublist, hlost⟩ :=
      ih htimestamps.2 fun x hx => hnone x (List.mem_cons_of_mem _ hx)
    refine ⟨hsublist.cons_cons _, ?_⟩
    intro x hx hne completed hmem
    rcases List.mem_cons.mp hx with rfl | hx
    · exact absurd rfl hne
    · rcases List.mem_cons.mp hmem with rfl | hmem
      · intro heq
        have : x.1.timestamp ∈ units.map AccessUnit.timestamp :=
          List.mem_map_of_mem (List.of_mem_zip hx).1
        exact htimestamps.1 (by rwa [← heq] at this)
      · exact hlost x hx hne completed hmem
  | @dropped unit packets kept units sent keeps returned _ later ih =>
    rw [List.map_cons, List.nodup_cons] at htimestamps
    obtain ⟨hsublist, hlost⟩ :=
      ih htimestamps.2 fun x hx => hnone x (List.mem_cons_of_mem _ hx)
    refine ⟨hsublist.cons _, ?_⟩
    intro x hx hne completed hmem
    rcases List.mem_cons.mp hx with rfl | hx
    · intro heq
      exact htimestamps.1 (heq ▸ later.timestamp_mem completed hmem)
    · exact hlost x hx hne completed hmem

/-- **Loss without reordering.** A stream whose datagrams arrive in order, some of them lost,
comes out intact exactly if no unit lost just its first packets up to the beginning of a
NAL. -/
theorem returned_intact_iff (p : RtpPacketizer) (units : List AccessUnit)
    (kept : List (List Bytes)) (htimestamps : (units.map AccessUnit.timestamp).Nodup)
    (hlength : ∀ packets ∈ p.packetizeAll units, packets.length ≤ 65536)
    (hkept : List.Forall₂ List.Sublist kept (p.packetizeAll units)) :
    Intact units (p.packetizeAll units) kept
        (({} : H264Depacketizer).returned kept.flatten)
      ↔ p.payloadType ≠ kH264PayloadType
        ∨ ∀ x ∈ units.zip ((p.packetizeAll units).zip kept),
            ¬ UnnoticedLoss p.maximumPayload x.1 x.2.1 x.2.2 := by
  by_cases htype : p.payloadType = kH264PayloadType
  · have hfates := fates_of_kept p htype htimestamps hlength hkept (d := {})
      (fun _ _ => .inl rfl)
    rw [or_iff_right (not_not.mpr htype)]
    constructor
    · intro hintact x hx hloss
      obtain ⟨completed, hmem, heq⟩ := hfates.returned_of_unnoticed x hx hloss
      refine hintact.lost x hx ?_ completed hmem heq
      obtain ⟨i, k, hpos, hi, hkeep, _⟩ := hloss
      intro hsame
      have hlen := congrArg List.length (hsame.symm.trans hkeep)
      rw [List.length_drop] at hlen
      omega
    · exact hfates.intact htimestamps
  · have hnothing : ({} : H264Depacketizer).returned kept.flatten = [] := by
      refine H264Depacketizer.returned_foreign _ ?_
      intro datagram hmem packet hparse
      have hsub : datagram ∈ (p.packetizeAll units).flatten :=
        (flatten_sublist_flatten hkept).subset hmem
      rw [p.packetizeAll_payloadType units datagram hsub packet hparse]
      exact htype
    rw [hnothing]
    exact iff_of_true ⟨List.nil_sublist _, by simp⟩ (.inl htype)

/-- Of three units the fragmented one loses its second packet: it is not returned, the two others
come out intact, and no loss went unnoticed. -/
theorem returned_intact_iff_fragmentLost :
    let p : RtpPacketizer := ⟨64, 96, 65535, 0, by decide, by decide, by decide⟩
    let units : List AccessUnit := [⟨[[0x67, 1]], 3000, 0, by decide⟩,
      ⟨[0x65 :: List.replicate 80 2], 6000, 0, by decide⟩, ⟨[[0x41, 3]], 9000, 0, by decide⟩]
    let sent := p.packetizeAll units
    let kept := sent.map (List.eraseIdx · 1)
    sent.map List.length = [1, 3, 1] ∧ kept.map List.length = [1, 2, 1]
      ∧ ({} : H264Depacketizer).returned kept.flatten
        = [⟨3000, 0, buildAnnexB [[0x67, 1]]⟩, ⟨9000, 0, buildAnnexB [[0x41, 3]]⟩]
      ∧ ∀ x ∈ units.zip (sent.zip kept), ¬ UnnoticedLoss p.maximumPayload x.1 x.2.1 x.2.2 := by
  intro p units sent kept
  have hkept : List.Forall₂ List.Sublist kept sent := List.forall₂_map_left_iff.mpr
    (List.forall₂_same.mpr fun _ _ => List.eraseIdx_sublist _ _)
  have hreturned : ({} : H264Depacketizer).returned kept.flatten
      = [⟨3000, 0, buildAnnexB [[0x67, 1]]⟩, ⟨9000, 0, buildAnnexB [[0x41, 3]]⟩] := by
    decide +kernel
  have hintact : Intact units sent kept (({} : H264Depacketizer).returned kept.flatten) := by
    rw [hreturned]
    exact ⟨by decide, by decide +kernel⟩
  have hiff := returned_intact_iff p units kept (by decide) (by decide +kernel) hkept
  have hnoticed := (hiff.mp hintact).resolve_left (by decide)
  exact ⟨by decide +kernel, by decide +kernel, hreturned, hnoticed⟩

/-- The first of two Single NAL packets is lost, and the second is returned as the unit. -/
theorem returned_truncated :
    let p : RtpPacketizer := ⟨64, 96, 0, 0, by decide, by decide, by decide⟩
    let unit : AccessUnit :=
      ⟨[0x67 :: List.replicate 19 1, 0x65 :: List.replicate 19 2], 3000, 0, by decide⟩
    let kept := (p.packetizeAll [unit]).map (List.drop 1)
    List.Forall₂ List.Sublist kept (p.packetizeAll [unit])
      ∧ (∀ packets ∈ p.packetizeAll [unit], packets.length ≤ 65536)
      ∧ ({} : H264Depacketizer).returned kept.flatten
        = [⟨3000, 0, buildAnnexB [0x65 :: List.replicate 19 2]⟩]
      ∧ ¬ Intact [unit] (p.packetizeAll [unit]) kept
        (({} : H264Depacketizer).returned kept.flatten) := by
  intro p unit kept
  have hreturned : ({} : H264Depacketizer).returned kept.flatten
      = [⟨3000, 0, buildAnnexB [0x65 :: List.replicate 19 2]⟩] := by decide
  refine ⟨List.forall₂_map_left_iff.mpr (List.forall₂_same.mpr fun _ _ => List.drop_sublist _ _),
    by decide, hreturned, fun hintact => ?_⟩
  have hsublist := hintact.sublist
  rw [hreturned] at hsublist
  exact absurd (hsublist.eq_of_length rfl) (by decide)

end Ipmx.Rtp
