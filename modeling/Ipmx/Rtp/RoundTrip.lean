/-
Ipmx.Rtp.RoundTrip — a stream delivered without loss arrives unchanged.

`RtpPacketizer.flights` are the access units of a stream on the wire, and
`packetizeAll_parse` says that the datagrams of `packetize` parse to their
packets. `pushAll_flight` runs one flight through a depacketizer that is not
inside its timestamp: nothing is returned before the marker, and the whole
unit is returned on it. `receiveAll_packetizeAll` is the statement for the
whole stream, by induction on its units.
-/
import Ipmx.Rtp.Reassembly

namespace Ipmx.Rtp

open H264

/-! ## From datagrams to flights -/

/-- An access unit as `packetize` puts it on the wire. -/
def RtpPacketizer.flight (p : RtpPacketizer) (unit : AccessUnit) : Flight where
  timestamp := unit.timestamp
  captureTimeNs := unit.captureTimeNs
  ssrc := p.ssrc
  sequence := p.sequence
  nals := unit.nals
  plans := packetizeLoop p.maximumPayload 0 unit.nals
  sends := packetizeLoop_remaining p.maximumPayload_ge p.maximumPayload_le unit.nals
    unit.carriable

/-- The unit as a receiver returns it when it is complete. -/
def AccessUnit.completed (unit : AccessUnit) : CompletedAccessUnit :=
  ⟨unit.timestamp, unit.captureTimeNs, buildAnnexB unit.nals⟩

/-- The flights of a stream, each numbered on from the one before. -/
def RtpPacketizer.flights : RtpPacketizer → List AccessUnit → List Flight
  | _, [] => []
  | p, unit :: units =>
    p.flight unit :: (p.packetize unit.nals unit.timestamp unit.captureTimeNs).2.flights units

theorem RtpPacketizer.packetize_snd (p : RtpPacketizer) (nals : List NalUnit)
    (timestamp : UInt32) (captureTimeNs : UInt64) :
    (p.packetize nals timestamp captureTimeNs).2
      = { p with
          sequence := p.sequence + UInt16.ofNat (packetizeLoop p.maximumPayload 0 nals).length } :=
  p.makePackets_snd _ _ _

theorem RtpPacketizer.packetize_length (p : RtpPacketizer) (unit : AccessUnit) :
    (p.packetize unit.nals unit.timestamp unit.captureTimeNs).1.length
      = (p.flight unit).plans.length :=
  p.makePackets_length _ _ _

/-- Every datagram of a unit parses to the packet of its flight, with the payload type the
packetizer is configured for. -/
theorem RtpPacketizer.packetize_parse_any (p : RtpPacketizer) (unit : AccessUnit) :
    (p.packetize unit.nals unit.timestamp unit.captureTimeNs).1.map parseRtpPacket
      = (p.flight unit).packets.map fun packet =>
          some { packet with payloadType := p.payloadType } := by
  apply List.ext_getElem
  · simp [p.packetize_length unit]
  · intro i hi hi'
    have hplans : i < (p.flight unit).plans.length := by simpa using hi'
    rw [List.getElem_map, List.getElem_map, Flight.getElem_packets _ i hplans (by simpa using hplans)]
    have hbytes := p.makePackets_getElem unit.timestamp unit.captureTimeNs
      (p.flight unit).plans i hplans (by rwa [p.makePackets_length])
    refine (congrArg parseRtpPacket hbytes).trans ?_
    rw [parseRtpPacket_packetBytes _ _ p.payloadType_le (Flight.payload_ne_nil _ hplans)]
    rfl

theorem RtpPacketizer.packetize_parse (p : RtpPacketizer)
    (htype : p.payloadType = kH264PayloadType) (unit : AccessUnit) :
    (p.packetize unit.nals unit.timestamp unit.captureTimeNs).1.map parseRtpPacket
      = (p.flight unit).packets.map some := by
  rw [p.packetize_parse_any unit]
  refine List.map_congr_left ?_
  intro packet hpacket
  obtain ⟨i, _, rfl⟩ := Flight.mem_packets hpacket
  rw [htype]
  rfl

theorem RtpPacketizer.packetizeAll_parse (p : RtpPacketizer)
    (htype : p.payloadType = kH264PayloadType) (units : List AccessUnit) :
    (p.packetizeAll units).map (·.map parseRtpPacket)
      = (p.flights units).map (·.packets.map some) := by
  induction units generalizing p with
  | nil => rfl
  | cons unit units ih =>
    have hnext : (p.packetize unit.nals unit.timestamp unit.captureTimeNs).2.payloadType
        = kH264PayloadType := by
      rw [p.packetize_snd]; exact htype
    simp only [RtpPacketizer.packetizeAll, RtpPacketizer.flights, List.map_cons,
      p.packetize_parse htype unit, ih _ hnext]

@[simp] theorem RtpPacketizer.packetizeAll_length (p : RtpPacketizer)
    (units : List AccessUnit) : (p.packetizeAll units).length = units.length := by
  induction units generalizing p with
  | nil => rfl
  | cons unit units ih => simp [RtpPacketizer.packetizeAll, ih]

theorem RtpPacketizer.flight_plans_ne_nil (p : RtpPacketizer) {unit : AccessUnit}
    (h : unit.nals ≠ []) : (p.flight unit).plans ≠ [] := by
  have hempty := (p.flight unit).sends.isEmpty_eq
  intro hnil
  rw [hnil] at hempty
  exact h (List.isEmpty_iff.mp hempty.symm)

/-- Every unit that has a NAL takes at least one datagram. -/
theorem RtpPacketizer.packetizeAll_ne_nil (p : RtpPacketizer) (units : List AccessUnit)
    (hunits : ∀ unit ∈ units, unit.nals ≠ []) :
    ∀ packets ∈ p.packetizeAll units, packets ≠ [] := by
  induction units generalizing p with
  | nil => simp [RtpPacketizer.packetizeAll]
  | cons unit units ih =>
    intro packets hpackets
    rcases List.mem_cons.mp hpackets with rfl | hrest
    · have hne := p.flight_plans_ne_nil (hunits unit (by simp))
      exact List.length_pos_iff.mp
        ((List.length_pos_iff.mpr hne).trans_eq (p.packetize_length unit).symm)
    · exact ih _ (fun u hu => hunits u (List.mem_cons_of_mem _ hu)) packets hrest

/-! ## Runs of `push` -/

namespace H264Depacketizer

/-- `push` on a sequence of parsed packets. -/
def pushAll (d : H264Depacketizer) :
    List ParsedRtpPacket → List (Option CompletedAccessUnit) × H264Depacketizer
  | [] => ([], d)
  | packet :: packets =>
    let (result, d) := d.push packet
    let (results, d) := d.pushAll packets
    (result :: results, d)

/-- When every datagram parses, receiving is pushing. -/
theorem receiveAll_eq_pushAll (d : H264Depacketizer) (datagrams : List Bytes)
    (packets : List ParsedRtpPacket) (h : datagrams.map parseRtpPacket = packets.map some) :
    d.receiveAll datagrams = ((d.pushAll packets).1.map some, (d.pushAll packets).2) := by
  induction datagrams generalizing d packets with
  | nil =>
    have : packets = [] := by simpa using h.symm
    subst this
    rfl
  | cons datagram datagrams ih =>
    cases packets with
    | nil => simp at h
    | cons packet packets =>
      simp only [List.map_cons, List.cons.injEq] at h
      simp [receiveAll, receive, h.1, ih _ packets h.2, pushAll]

end H264Depacketizer

/-! ## One flight -/

/-- The results of an undisturbed flight: nothing up to the marker, the unit on it. -/
def Flight.results (f : Flight) : List (Option CompletedAccessUnit) :=
  List.replicate (f.plans.length - 1) none
    ++ [some ⟨f.timestamp, f.captureTimeNs, buildAnnexB f.nals⟩]

theorem Flight.drop_packets (f : Flight) {i : Nat} (hi : i < f.plans.length) :
    f.packets.drop i = f.packet i f.plans[i] :: f.packets.drop (i + 1) := by
  rw [List.drop_eq_getElem_cons (by simpa using hi), f.getElem_packets i hi (by simpa using hi)]

/-- From packet `i` on nothing is returned before the marker, and the unit on it. -/
theorem Outcome.complete {f : Flight} {i : Nat}
    {result : Option CompletedAccessUnit × H264Depacketizer} (h : Outcome f i f.nals result)
    (hlimits : WithinLimits f.nals) (hi : i < f.plans.length) :
    result.1 :: (result.2.pushAll (f.packets.drop (i + 1))).1
        = List.replicate (f.plans.length - 1 - i) none
          ++ [some ⟨f.timestamp, f.captureTimeNs, buildAnnexB f.nals⟩]
      ∧ (result.2.pushAll (f.packets.drop (i + 1))).2.active = false := by
  induction hleft : f.plans.length - i using Nat.strong_induction_on generalizing i result with
  | _ n ih =>
    obtain ⟨r, d⟩ := result
    unfold Outcome at h
    split at h
    · next hmore =>
      obtain ⟨rfl, hcollecting | ⟨_, hexceeds⟩⟩ := h
      · have hnext := hcollecting.push_next hmore
        obtain ⟨hresults, hactive⟩ := ih (f.plans.length - (i + 1)) (by omega) hnext hmore rfl
        have hcount : f.plans.length - 1 - i = (f.plans.length - 1 - (i + 1)) + 1 := by omega
        rw [f.drop_packets hmore, H264Depacketizer.pushAll, hcount, List.replicate_succ]
        exact ⟨congrArg (none :: ·) hresults, hactive⟩
      · exact absurd hlimits hexceeds
    · next hlast =>
      obtain ⟨hactive, ⟨rfl, _⟩ | ⟨_, hexceeds⟩⟩ := h
      · have hcount : f.plans.length - 1 - i = 0 := by omega
        have hnil : f.packets.drop (i + 1) = [] := List.drop_eq_nil_of_le (by simp; omega)
        rw [hnil, hcount]
        exact ⟨rfl, hactive⟩
      · exact absurd hlimits hexceeds

/-- **One undisturbed flight.** -/
theorem pushAll_flight (f : Flight) {d : H264Depacketizer}
    (hfresh : d.active = false ∨ d.timestamp ≠ f.timestamp) (hne : f.plans ≠ [])
    (hlimits : WithinLimits f.nals) :
    (d.pushAll f.packets).1 = f.results ∧ (d.pushAll f.packets).2.active = false := by
  have hpos : 0 < f.plans.length := List.length_pos_iff.mpr hne
  have hstep := push_first hpos hfresh f.sends
  have hdrop := f.drop_packets hpos
  rw [List.drop_zero] at hdrop
  rw [hdrop, H264Depacketizer.pushAll, Flight.results]
  exact hstep.complete hlimits hpos

/-! ## The stream -/

/-- What each datagram of a stream gives when none is lost: it parses, and only the last one
of a unit returns something, the unit. -/
def deliveredResults (units : List AccessUnit) (sent : List (List Bytes)) :
    List (Option (Option CompletedAccessUnit)) :=
  (units.zip sent).flatMap fun (unit, packets) =>
    List.replicate (packets.length - 1) (some none)
      ++ [some (some unit.completed)]

/-- A run over the datagrams of one unit, from any state that is not inside its timestamp. -/
theorem RtpPacketizer.receiveAll_packetize (p : RtpPacketizer)
    (htype : p.payloadType = kH264PayloadType) {unit : AccessUnit} (hne : unit.nals ≠ [])
    (hlimits : WithinLimits unit.nals) {d : H264Depacketizer}
    (hfresh : d.active = false ∨ d.timestamp ≠ unit.timestamp) :
    (d.receiveAll (p.packetize unit.nals unit.timestamp unit.captureTimeNs).1).1
        = (p.flight unit).results.map some
      ∧ (d.receiveAll (p.packetize unit.nals unit.timestamp unit.captureTimeNs).1).2.active
        = false := by
  obtain ⟨hresults, hactive⟩ := pushAll_flight (p.flight unit) hfresh
    (p.flight_plans_ne_nil hne) hlimits
  rw [d.receiveAll_eq_pushAll _ _ (p.packetize_parse htype unit)]
  exact ⟨congrArg (List.map some) hresults, hactive⟩

theorem H264Depacketizer.receiveAll_append (d : H264Depacketizer) (xs ys : List Bytes) :
    d.receiveAll (xs ++ ys)
      = ((d.receiveAll xs).1 ++ ((d.receiveAll xs).2.receiveAll ys).1,
         ((d.receiveAll xs).2.receiveAll ys).2) := by
  induction xs generalizing d with
  | nil => rfl
  | cons x xs ih => simp [receiveAll, ih]

/-- The run over a stream, from any depacketizer between two units. -/
theorem receiveAll_stream (p : RtpPacketizer) (htype : p.payloadType = kH264PayloadType)
    (units : List AccessUnit) (hunits : ∀ unit ∈ units, unit.nals ≠ [] ∧ WithinLimits unit.nals)
    {d : H264Depacketizer} (hidle : d.active = false) :
    (d.receiveAll (p.packetizeAll units).flatten).1
      = deliveredResults units (p.packetizeAll units) := by
  induction units generalizing p d with
  | nil => rfl
  | cons unit units ih =>
    obtain ⟨hne, hlimits⟩ := hunits unit (by simp)
    obtain ⟨hresults, hactive⟩ := p.receiveAll_packetize htype hne hlimits (.inl hidle)
    have hnext : (p.packetize unit.nals unit.timestamp unit.captureTimeNs).2.payloadType
        = kH264PayloadType := by
      rw [p.packetize_snd]; exact htype
    have hrest := ih _ hnext (fun u hu => hunits u (List.mem_cons_of_mem _ hu)) hactive
    have hlength := p.packetize_length unit
    rw [RtpPacketizer.packetizeAll, List.flatten_cons, H264Depacketizer.receiveAll_append,
      hresults, hrest]
    simp only [deliveredResults, List.zip_cons_cons, List.flatMap_cons, hlength, Flight.results,
      List.map_append, List.map_replicate, List.map_cons, List.map_nil]
    rfl

/-- **Lossless round trip.** Every datagram of a stream parses, and what is returned is every
unit, complete and on its last packet, whatever the starting sequence number. -/
theorem receiveAll_packetizeAll (p : RtpPacketizer) (units : List AccessUnit)
    (htype : p.payloadType = kH264PayloadType)
    (hunits : ∀ unit ∈ units, unit.nals ≠ [] ∧ WithinLimits unit.nals) :
    (p.packetizeAll units).length = units.length
      ∧ (∀ packets ∈ p.packetizeAll units, packets ≠ [])
      ∧ (({} : H264Depacketizer).receiveAll (p.packetizeAll units).flatten).1
        = deliveredResults units (p.packetizeAll units) := by
  refine ⟨p.packetizeAll_length units, ?_, receiveAll_stream p htype units hunits rfl⟩
  exact p.packetizeAll_ne_nil units fun unit hu => (hunits unit hu).1

/-- The round trip where the sequence number wraps between a STAP-A and an FU-A packet. -/
theorem receiveAll_packetizeAll_wrap :
    let p : RtpPacketizer := ⟨64, 96, 65535, 7, by decide, by decide, by decide⟩
    let unit : AccessUnit :=
      ⟨[[0x67, 1], [0x68, 2], 0x65 :: List.replicate 60 3], 3000, 5, by decide⟩
    (p.packetizeAll [unit]).length = 1
      ∧ (∀ packets ∈ p.packetizeAll [unit], packets ≠ [])
      ∧ (({} : H264Depacketizer).receiveAll (p.packetizeAll [unit]).flatten).1
        = deliveredResults [unit] (p.packetizeAll [unit]) := by
  refine receiveAll_packetizeAll _ _ rfl ?_
  intro unit hunit
  obtain rfl := List.mem_singleton.mp hunit
  exact ⟨by decide, by decide, by decide, by decide⟩

end Ipmx.Rtp
