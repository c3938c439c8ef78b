/-
Ipmx.Receiver.ReceiveLoopTheorems — what the receive loop makes of an announced stream.

The filter compares with one payload type, the packetizer stamps the one it is
configured for, and the SDP may announce any: `filterPacket_packetizeAll` says
which datagrams pass. Where all of them do, the loop returns what its
depacketizer returns (`receiveAll_of_passing`), and for a lossless stream that
is every unit; where none does, it only counts (`receiveAll_of_rejected`).
-/
import Ipmx.Receiver.ReceiveLoop
import Ipmx.Rtp.Loss
import Ipmx.Rtp.RoundTrip
import Ipmx.Sdp.RoundTrip

namespace Ipmx.Receiver

open H264 Rtp Sdp
open Ipmx.Lib

/-! ## Runs of the loop -/

namespace ReceiveLoop

/-- A datagram that passes is pushed. -/
theorem receive_of_passing (loop : ReceiveLoop) {datagram : Bytes}
    (h : (filterPacket datagram).isSome) :
    (loop.receive datagram).1 = (loop.depacketizer.receive datagram).1
      ∧ (loop.receive datagram).2.depacketizer = (loop.depacketizer.receive datagram).2
      ∧ (loop.receive datagram).2.invalidPackets = loop.invalidPackets := by
  unfold filterPacket at h
  unfold receive filterPacket H264Depacketizer.receive
  cases hparse : parseRtpPacket datagram with
  | none =>
    rw [hparse] at h
    cases h
  | some packet =>
    rw [hparse] at h
    by_cases htype : packet.payloadType ≠ kH264PayloadType
    · simp only [if_pos htype] at h
      cases h
    · simp only [if_neg htype, and_self]

/-- A run in which everything passes is the run of the depacketizer. -/
theorem receiveAll_of_passing (loop : ReceiveLoop) {datagrams : List Bytes}
    (h : ∀ datagram ∈ datagrams, (filterPacket datagram).isSome) :
    (loop.receiveAll datagrams).1 = (loop.depacketizer.receiveAll datagrams).1
      ∧ (loop.receiveAll datagrams).2.invalidPackets = loop.invalidPackets := by
  induction datagrams generalizing loop with
  | nil => exact ⟨rfl, rfl⟩
  | cons datagram datagrams ih =>
    obtain ⟨hresult, hdepacketizer, hinvalid⟩ :=
      receive_of_passing loop (h datagram List.mem_cons_self)
    obtain ⟨hresults, hinvalids⟩ := ih (loop.receive datagram).2
      fun other hother => h other (List.mem_cons_of_mem _ hother)
    rw [hdepacketizer] at hresults
    exact ⟨congrArg₂ List.cons hresult hresults, hinvalids.trans hinvalid⟩

/-- A run in which nothing passes is a count. -/
theorem receiveAll_of_rejected (loop : ReceiveLoop) {datagrams : List Bytes}
    (h : ∀ datagram ∈ datagrams, filterPacket datagram = none) :
    loop.receiveAll datagrams
      = (List.replicate datagrams.length none,
         { loop with invalidPackets := loop.invalidPackets + datagrams.length }) := by
  induction datagrams generalizing loop with
  | nil => rfl
  | cons datagram datagrams ih =>
    have hreceive : loop.receive datagram
        = (none, { loop with invalidPackets := loop.invalidPackets + 1 }) := by
      rw [receive, h datagram List.mem_cons_self]
    have hcount : loop.invalidPackets + (datagrams.length + 1)
        = loop.invalidPackets + 1 + datagrams.length := by omega
    simp only [receiveAll, hreceive]
    rw [ih _ fun other hother => h other (List.mem_cons_of_mem _ hother)]
    simp only [List.length_cons, List.replicate_succ, hcount]

/-- What the filter turns away would not change the depacketizer either. -/
theorem receive_depacketizer (loop : ReceiveLoop) (datagram : Bytes) :
    (loop.receive datagram).1.join = (loop.depacketizer.receive datagram).1.join
      ∧ (loop.receive datagram).2.depacketizer = (loop.depacketizer.receive datagram).2 := by
  cases hfilter : filterPacket datagram with
  | some packet =>
    have hpassing : (filterPacket datagram).isSome := by rw [hfilter]; rfl
    obtain ⟨hresult, hdepacketizer, _⟩ := receive_of_passing loop hpassing
    exact ⟨congrArg Option.join hresult, hdepacketizer⟩
  | none =>
    have hforeign : ∀ packet, parseRtpPacket datagram = some packet →
        packet.payloadType ≠ kH264PayloadType := by
      intro packet hparse htype
      simp [filterPacket, hparse, htype] at hfilter
    obtain ⟨hnone, hstate⟩ := loop.depacketizer.receive_foreign hforeign
    rw [receive, hfilter, hnone, hstate]
    exact ⟨rfl, rfl⟩

/-- The loop returns what its depacketizer returns, over any datagrams. -/
theorem receiveAll_depacketizer (loop : ReceiveLoop) (datagrams : List Bytes) :
    (loop.receiveAll datagrams).1.filterMap Option.join = loop.depacketizer.returned datagrams
      ∧ (loop.receiveAll datagrams).2.depacketizer
        = (loop.depacketizer.receiveAll datagrams).2 := by
  induction datagrams generalizing loop with
  | nil => exact ⟨rfl, rfl⟩
  | cons datagram datagrams ih =>
    obtain ⟨hresult, hdepacketizer⟩ := receive_depacketizer loop datagram
    obtain ⟨hresults, hlater⟩ := ih (loop.receive datagram).2
    rw [hdepacketizer] at hresults hlater
    refine ⟨?_, hlater⟩
    unfold H264Depacketizer.returned at hresults ⊢
    rw [receiveAll, H264Depacketizer.receiveAll, List.filterMap_cons, List.filterMap_cons, hresult,
      hresults]

theorem receiveAll_snoc (loop : ReceiveLoop) (datagrams : List Bytes) (datagram : Bytes) :
    loop.receiveAll (datagrams ++ [datagram])
      = ((loop.receiveAll datagrams).1 ++ [((loop.receiveAll datagrams).2.receive datagram).1],
        ((loop.receiveAll datagrams).2.receive datagram).2) := by
  induction datagrams generalizing loop with
  | nil => rfl
  | cons first datagrams ih =>
    rw [List.cons_append, receiveAll]
    dsimp only
    rw [ih]
    rfl

/-- The counters of the run: the tracker has seen the packets that passed, and the others are
invalid. -/
theorem receiveAll_counters (loop : ReceiveLoop) (datagrams : List Bytes) :
    (loop.receiveAll datagrams).2.sequence
        = loop.sequence.observeAll ((datagrams.filterMap filterPacket).map ParsedRtpPacket.sequence)
      ∧ (loop.receiveAll datagrams).2.invalidPackets
        = loop.invalidPackets + datagrams.countP fun datagram => (filterPacket datagram).isNone := by
  induction datagrams generalizing loop with
  | nil => exact ⟨rfl, rfl⟩
  | cons datagram datagrams ih =>
    obtain ⟨hsequence, hinvalid⟩ := ih (loop.receive datagram).2
    rw [receiveAll, List.countP_cons, List.filterMap_cons]
    dsimp only
    rw [hsequence, hinvalid]
    cases hfilter : filterPacket datagram with
    | none =>
      rw [receive, hfilter]
      refine ⟨rfl, ?_⟩
      show loop.invalidPackets + 1 + _ = loop.invalidPackets + (_ + 1)
      omega
    | some packet =>
      rw [receive, hfilter]
      exact ⟨rfl, rfl⟩

end ReceiveLoop

/-! ## The filter on packetized streams -/

open ReceiveLoop

/-- Every datagram of a stream parses to a packet of the packetizer's payload type. -/
theorem parse_packetizeAll (p : RtpPacketizer) (units : List AccessUnit) :
    ∀ datagram ∈ (p.packetizeAll units).flatten,
      ∃ packet, parseRtpPacket datagram = some packet ∧ packet.payloadType = p.payloadType := by
  induction units generalizing p with
  | nil =>
    intro datagram h
    cases h
  | cons unit units ih =>
    intro datagram h
    rw [RtpPacketizer.packetizeAll, List.flatten_cons] at h
    rcases List.mem_append.mp h with h | h
    · have hparsed := List.mem_map_of_mem (f := parseRtpPacket) h
      rw [p.packetize_parse_any unit] at hparsed
      obtain ⟨packet, _, hpacket⟩ := List.mem_map.mp hparsed
      exact ⟨_, hpacket.symm, rfl⟩
    · obtain ⟨packet, hparse, htype⟩ := ih _ datagram h
      rw [p.packetize_snd] at htype
      exact ⟨packet, hparse, htype⟩

/-- **The filter looks at the payload type of the packetizer only.** -/
theorem filterPacket_packetizeAll (p : RtpPacketizer) (units : List AccessUnit) :
    ∀ datagram ∈ (p.packetizeAll units).flatten,
      ((filterPacket datagram).isSome ↔ p.payloadType = kH264PayloadType) := by
  intro datagram hmem
  obtain ⟨packet, hparse, htype⟩ := parse_packetizeAll p units datagram hmem
  unfold filterPacket
  rw [hparse]
  show (if packet.payloadType ≠ kH264PayloadType then none else some packet).isSome ↔ _
  rw [htype]
  by_cases h : p.payloadType ≠ kH264PayloadType
  · simp only [if_pos h]
    exact iff_of_false (fun hsome => nomatch hsome) h
  · simp only [if_neg h]
    exact iff_of_true rfl (not_ne_iff.mp h)

/-! ## The reference stream of the SDP tests -/

/-- The reference stream of the SDP tests, announced with some payload type. -/
theorem describe_reference (payloadType : UInt8) (hle : payloadType ≤ 127)
    (hok : (makeSdp { referenceSettings with payloadType } referenceSps
      referencePps).toOption.isSome = true) :
    ∃ text d, makeSdp { referenceSettings with payloadType } referenceSps referencePps = .ok text
      ∧ readSdpDescription (fun _ => .ok 60) text = .ok d ∧ validateIpmxSdp d = .ok []
      ∧ d.settings.payloadType = payloadType ∧ d.settings.maximumUdpBytes = 1200 := by
  have hannounceable : Announceable { referenceSettings with payloadType } :=
    { announceable_reference with payloadType_le := hle }
  cases hmake : makeSdp { referenceSettings with payloadType } referenceSps referencePps with
  | error message =>
    rw [hmake] at hok
    cases hok
  | ok text =>
    obtain ⟨d, hread, hannounces, hvalid⟩ :=
      readSdpDescription_makeSdp (fun _ => .ok 60) hannounceable hmake
    exact ⟨text, d, rfl, hread, hvalid, hannounces.payloadType, hannounces.maximumUdpBytes⟩

/-- An access unit of the reference stream. -/
def referenceUnit : AccessUnit := ⟨[referenceSps, referencePps, [0x65, 1, 2]], 3000, 5, by decide⟩

/-! ## Announced streams -/

/-- The validator has checked the budget of the packetizer, the reader its payload type. -/
theorem new?_of_valid {d : SdpDescription} (hvalid : validateIpmxSdp d = .ok [])
    (htype : d.settings.payloadType ≤ 127) (ssrc : UInt32) (sequence : UInt16) :
    ∃ p, RtpPacketizer.new? d.settings.maximumUdpBytes.toNat d.settings.payloadType ssrc sequence
      = some p := by
  obtain ⟨_, hfmtp, _⟩ := validateIpmxSdp_eq_ok_nil.mp hvalid
  simp only [validateFmtp, List.append_eq_nil_iff, require_eq_nil] at hfmtp
  obtain ⟨⟨⟨⟨_, hge, hle⟩, _⟩, _⟩, _⟩ := hfmtp
  have hge : 64 ≤ d.settings.maximumUdpBytes.toNat := UInt16.le_iff_toNat_le.mp hge
  refine ⟨_, dif_neg ?_⟩
  rintro (h | h | h)
  · omega
  · omega
  · exact UInt8.not_lt.mpr htype h

theorem new?_payloadType {maximumDatagramBytes : Nat} {payloadType : UInt8} {ssrc : UInt32}
    {sequence : UInt16} {p : RtpPacketizer}
    (h : RtpPacketizer.new? maximumDatagramBytes payloadType ssrc sequence = some p) :
    p.payloadType = payloadType := by
  unfold RtpPacketizer.new? at h
  split at h
  · cases h
  · obtain rfl := Option.some.inj h
    rfl

/-- **What is announced with payload type 96 is received, and nothing else is.** The stream
of a valid description passes the filter datagram by datagram and comes out unit by unit if
it has the payload type of this transport; under any other one every datagram is counted as
invalid. -/
theorem receiveAll_announced {d : SdpDescription} (hvalid : validateIpmxSdp d = .ok [])
    (ssrc : UInt32) (sequence : UInt16) (units : List AccessUnit)
    (hunits : ∀ unit ∈ units, unit.nals ≠ [] ∧ WithinLimits unit.nals) :
    (d.settings.payloadType = kH264PayloadType →
      ∃ p, RtpPacketizer.new? d.settings.maximumUdpBytes.toNat d.settings.payloadType ssrc
          sequence = some p
        ∧ (∀ datagram ∈ (p.packetizeAll units).flatten, (filterPacket datagram).isSome)
        ∧ (({} : ReceiveLoop).receiveAll (p.packetizeAll units).flatten).1
          = deliveredResults units (p.packetizeAll units)
        ∧ (({} : ReceiveLoop).receiveAll (p.packetizeAll units).flatten).2.invalidPackets = 0)
    ∧ (d.settings.payloadType ≠ kH264PayloadType →
      ∀ p, RtpPacketizer.new? d.settings.maximumUdpBytes.toNat d.settings.payloadType ssrc
          sequence = some p →
        (∀ datagram ∈ (p.packetizeAll units).flatten, filterPacket datagram = none)
        ∧ (({} : ReceiveLoop).receiveAll (p.packetizeAll units).flatten).1
          = List.replicate (p.packetizeAll units).flatten.length none) := by
  constructor
  · intro htype
    obtain ⟨p, hp⟩ := new?_of_valid hvalid (htype ▸ by decide) ssrc sequence
    have hpayload : p.payloadType = kH264PayloadType := (new?_payloadType hp).trans htype
    have hpass : ∀ datagram ∈ (p.packetizeAll units).flatten, (filterPacket datagram).isSome :=
      fun datagram hmem => (filterPacket_packetizeAll p units datagram hmem).mpr hpayload
    obtain ⟨hresults, hinvalid⟩ := receiveAll_of_passing {} hpass
    exact ⟨p, hp, hpass, hresults.trans (receiveAll_stream p hpayload units hunits rfl), hinvalid⟩
  · intro htype p hp
    have hpayload : p.payloadType ≠ kH264PayloadType := (new?_payloadType hp).symm ▸ htype
    have hreject : ∀ datagram ∈ (p.packetizeAll units).flatten, filterPacket datagram = none :=
      fun datagram hmem => Option.not_isSome_iff_eq_none.mp
        (mt (filterPacket_packetizeAll p units datagram hmem).mp hpayload)
    exact ⟨hreject, congrArg Prod.fst (receiveAll_of_rejected {} hreject)⟩

theorem receiveAll_announced_reference :
    ∃ d, validateIpmxSdp d = .ok [] ∧ ∃ p, RtpPacketizer.new? 1200 96 7 65535 = some p
      ∧ (∀ datagram ∈ (p.packetizeAll [referenceUnit]).flatten, (filterPacket datagram).isSome)
      ∧ (({} : ReceiveLoop).receiveAll (p.packetizeAll [referenceUnit]).flatten).1
        = deliveredResults [referenceUnit] (p.packetizeAll [referenceUnit])
      ∧ (({} : ReceiveLoop).receiveAll (p.packetizeAll [referenceUnit]).flatten).2.invalidPackets
        = 0 := by
  obtain ⟨_, d, _, _, hvalid, htype, hudp⟩ := describe_reference 96 (by simp)
    (by decide +kernel)
  have hreceived := (receiveAll_announced hvalid 7 65535 [referenceUnit] fun unit hunit => by
    obtain rfl := List.mem_singleton.mp hunit
    exact ⟨by decide, by decide, by decide, by decide⟩).1 htype
  rw [htype, hudp] at hreceived
  exact ⟨d, hvalid, hreceived⟩

/-- The payload type 110 of the SDP tests is accepted by the validator and by the packetizer,
and the receiver hears nothing. -/
theorem receiveAll_payloadType110 :
    ∃ text d p,
      makeSdp { referenceSettings with payloadType := 110 } referenceSps referencePps = .ok text
      ∧ readSdpDescription (fun _ => .ok 60) text = .ok d ∧ validateIpmxSdp d = .ok []
      ∧ RtpPacketizer.new? d.settings.maximumUdpBytes.toNat d.settings.payloadType 7 65535 = some p
      ∧ (p.packetizeAll [referenceUnit]).flatten ≠ []
      ∧ (∀ datagram ∈ (p.packetizeAll [referenceUnit]).flatten, filterPacket datagram = none)
      ∧ (({} : ReceiveLoop).receiveAll (p.packetizeAll [referenceUnit]).flatten).1 = [none] := by
  obtain ⟨text, d, hmake, hread, hvalid, htype, hudp⟩ :=
    describe_reference 110 (by simp) (by decide +kernel)
  exact ⟨text, d, ⟨1200, 110, 65535, 7, by decide, by decide, by decide⟩, hmake, hread, hvalid,
    by rw [htype, hudp]; rfl, by decide, by decide, by decide⟩

end Ipmx.Receiver
