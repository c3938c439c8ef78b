/-
Ipmx.Sender.FrameTransmitterTheorems — what a run of the worker loop sends.

A run sends one group per frame: the Sender Report, then the packets.
`Transcript` says so for a relation between a group, its frame and the packets
sent before it. `transmit_ok` and `transmit_error` are the step lemmas: a
round that completes sends its group, a round that throws sends the front of
one. `run_transcript` takes them over a whole run, and `run_reports` states
the discipline of the Sender Reports: their counters are those of the packets
sent before, their timestamp that of every packet of their frame.
-/
import Ipmx.Rtcp.CompoundTheorems
import Ipmx.Rtp.PacketizerTheorems
import Ipmx.Sender.FrameTransmitter

namespace Ipmx.Sender

open Ipmx.Lib
open H264
open Rtcp
open Rtp

/-! ## The packets of a packetizer -/

/-- A datagram of some `packetize` call. -/
def Packetized (packet : Bytes) : Prop :=
  ∃ (p : RtpPacketizer) (nals : List NalUnit) (timestamp : UInt32) (captureTimeNs : UInt64),
    packet ∈ (p.packetize nals timestamp captureTimeNs).1

theorem fuFragments_payload_ne_nil (maximumFragmentData : Nat) (header : UInt8)
    (finalNal : Bool) (fuel : Nat) (first : Bool) (data : Bytes) :
    ∀ plan ∈ fuFragments maximumFragmentData header finalNal fuel first data,
      plan.payload ≠ [] := by
  induction fuel generalizing first data with
  | zero => simp [fuFragments]
  | succ fuel ih =>
    intro plan hplan
    rw [fuFragments] at hplan
    split at hplan
    · simp at hplan
    · rcases List.mem_cons.mp hplan with rfl | hplan
      · simp [fuA]
      · exact ih _ _ plan hplan

/-- No packet is empty, whatever the units. -/
theorem packetizeLoop_payload_ne_nil (m : Nat) (nals : List NalUnit) :
    ∀ plan ∈ packetizeLoop m 0 nals, plan.payload ≠ [] := by
  induction hlen : nals.length using Nat.strong_induction_on generalizing nals with
  | _ n ih =>
    intro plan hplan
    cases nals with
    | nil => simp at hplan
    | cons nal rest =>
      have hrest := ih rest.length (by rw [← hlen]; simp) rest rfl
      cases nal with
      | nil =>
        rw [packetizeLoop] at hplan
        exact hrest plan hplan
      | cons header data =>
        rw [packetizeLoop_cons] at hplan
        split at hplan
        · rcases List.mem_cons.mp hplan with rfl | hplan
          · simp [stapA]
          · refine ih _ ?_ _ rfl plan hplan
            rw [← hlen, List.length_drop, List.length_cons]
            omega
        · split at hplan
          · rcases List.mem_cons.mp hplan with rfl | hplan
            · simp
            · exact hrest plan hplan
          · rcases List.mem_append.mp hplan with hplan | hplan
            · exact fuFragments_payload_ne_nil _ _ _ _ _ _ plan hplan
            · exact hrest plan hplan

/-- What the loop needs to know of a packet. -/
theorem Packetized.eq_packetBytes {packet : Bytes} (h : Packetized packet) :
    ∃ (header : RtpHeader) (payload : Bytes), header.payloadType ≤ 127 ∧ payload ≠ []
      ∧ packet = packetBytes header payload := by
  obtain ⟨p, nals, timestamp, captureTimeNs, hpacket⟩ := h
  obtain ⟨i, hi, rfl⟩ := List.getElem_of_mem hpacket
  have hplans : i < (packetizeLoop p.maximumPayload 0 nals).length := by
    rwa [RtpPacketizer.packetize, RtpPacketizer.makePackets_length] at hi
  refine ⟨_, _, ?_, ?_, p.makePackets_getElem timestamp captureTimeNs _ i hplans hi⟩
  · exact p.payloadType_le
  · exact packetizeLoop_payload_ne_nil _ nals _ (List.getElem_mem hplans)

/-! ## Rewriting the timestamp -/

/-- The bytes of a packet behind its RTP header and header extension. -/
def payloadSize (packet : Bytes) : Nat :=
  packet.length - kFullHeaderSize

/-- A packet with another timestamp: the four bytes of the field are the only ones that
change, and it parses as the packet it was, but for the timestamp. -/
structure Rewritten (timestamp : UInt32) (packet rewritten : Bytes) : Prop where
  length_eq : rewritten.length = packet.length
  others : ∀ i, i < 4 ∨ 8 ≤ i → rewritten[i]? = packet[i]?
  parsed : ∃ parsed, parseRtpPacket packet = some parsed
    ∧ parseRtpPacket rewritten = some { parsed with timestamp }
    ∧ parsed.payload.length = payloadSize rewritten

theorem rewriteTimestamp_packetBytes (timestamp : UInt32) (header : RtpHeader)
    (payload : Bytes) :
    rewriteTimestamp timestamp (packetBytes header payload)
      = .ok (packetBytes { header with timestamp } payload) := by
  have hlen : ¬ (packetBytes header payload).length < 8 := by
    simp only [length_packetBytes, kFullHeaderSize]; omega
  rw [rewriteTimestamp, if_neg hlen]
  rfl

/-- The bytes outside the field. -/
theorem packetBytes_getElem?_of_ne (timestamp : UInt32) (header : RtpHeader)
    (payload : Bytes) (i : Nat) (hi : i < 4 ∨ 8 ≤ i) :
    (packetBytes { header with timestamp } payload)[i]? = (packetBytes header payload)[i]? := by
  -- the header is eight bytes and the rest: every index outside the field names a byte of both
  rcases hi with hi | hi
  · obtain rfl | rfl | rfl | rfl : i = 0 ∨ i = 1 ∨ i = 2 ∨ i = 3 := by omega
    all_goals rfl
  · obtain ⟨k, rfl⟩ := Nat.exists_eq_add_of_le' hi
    rfl

/-- **Rewriting a packet of a packetizer.** -/
theorem rewriteTimestamp_packetized (timestamp : UInt32) {packet : Bytes}
    (h : Packetized packet) :
    ∃ rewritten, rewriteTimestamp timestamp packet = .ok rewritten
      ∧ Rewritten timestamp packet rewritten := by
  obtain ⟨header, payload, htype, hpayload, rfl⟩ := h.eq_packetBytes
  refine ⟨_, rewriteTimestamp_packetBytes timestamp header payload, ?_⟩
  constructor
  case length_eq => simp
  case others => exact packetBytes_getElem?_of_ne timestamp header payload
  case parsed =>
    refine ⟨_, parseRtpPacket_packetBytes header payload htype hpayload,
      parseRtpPacket_packetBytes { header with timestamp } payload htype hpayload, ?_⟩
    simp [payloadSize]

theorem rewriteTimestamps_packetized (timestamp : UInt32) {packets : List Bytes}
    (h : ∀ packet ∈ packets, Packetized packet) :
    ∃ rewritten, rewriteTimestamps timestamp packets = .ok rewritten
      ∧ List.Forall₂ (Rewritten timestamp) packets rewritten := by
  induction packets with
  | nil => exact ⟨[], rfl, .nil⟩
  | cons packet packets ih =>
    obtain ⟨first, hfirst, hrewritten⟩ :=
      rewriteTimestamp_packetized timestamp (h packet List.mem_cons_self)
    obtain ⟨later, hlater, hall⟩ := ih fun p hp => h p (List.mem_cons_of_mem _ hp)
    refine ⟨first :: later, ?_, .cons hrewritten hall⟩
    rw [rewriteTimestamps, hfirst, hlater]
    rfl

/-! ## Groups and transcripts -/

/-- What the worker sends for one frame. -/
structure FrameGroup where
  compound : Bytes
  packets : List Bytes
deriving DecidableEq, Repr

def FrameGroup.datagrams (group : FrameGroup) : List Datagram :=
  .rtcp group.compound :: group.packets.map .rtp

/-- `trace` is one group for each frame, in the order of the frames. `R` relates each group
to the packets sent before it and to its frame. -/
inductive Transcript (R : List Bytes → TransmitFrame × Nat → FrameGroup → Prop) :
    List Bytes → List (TransmitFrame × Nat) → List Datagram → Prop
  | done {earlier : List Bytes} : Transcript R earlier [] []
  | frame {earlier : List Bytes} {queued : TransmitFrame × Nat} {group : FrameGroup}
      {frames : List (TransmitFrame × Nat)} {trace : List Datagram}
      (hgroup : R earlier queued group)
      (later : Transcript R (earlier ++ group.packets) frames trace) :
      Transcript R earlier (queued :: frames) (group.datagrams ++ trace)

theorem Transcript.mono {R R' : List Bytes → TransmitFrame × Nat → FrameGroup → Prop}
    {earlier : List Bytes} {frames : List (TransmitFrame × Nat)} {trace : List Datagram}
    (h : Transcript R earlier frames trace)
    (hR : ∀ earlier queued group, queued ∈ frames → R earlier queued group →
      R' earlier queued group) : Transcript R' earlier frames trace := by
  induction h with
  | done => exact .done
  | frame hgroup later ih =>
    refine .frame (hR _ _ _ List.mem_cons_self hgroup) (ih ?_)
    intro earlier queued group hqueued
    exact hR earlier queued group (List.mem_cons_of_mem _ hqueued)

/-- The discipline of a Sender Report: it is one, its timestamp is that of the packets behind
it, and its counters are those of the packets before it. -/
structure Reported (earlier : List Bytes) (queued : TransmitFrame × Nat) (group : FrameGroup) :
    Prop where
  packetType : group.compound[1]? = some 200
  rtpTimestamp : List.Forall₂ (Rewritten (Rtcp.readU32 group.compound 16)) queued.1.rtpPackets
    group.packets
  packetCount : Rtcp.readU32 group.compound 20 = UInt32.ofNat earlier.length
  octetCount : Rtcp.readU32 group.compound 24 = UInt32.ofNat (earlier.map payloadSize).sum

/-- A packet of the group is the rewriting of one of the frame. -/
theorem forall₂_right {α β : Type} {R : α → β → Prop} {as : List α} {bs : List β}
    (h : List.Forall₂ R as bs) {b : β} (hb : b ∈ bs) : ∃ a ∈ as, R a b := by
  induction h with
  | nil => cases hb
  | @cons a b' as bs hab hrest ih =>
    rcases List.mem_cons.mp hb with rfl | hb
    · exact ⟨a, List.mem_cons_self, hab⟩
    · obtain ⟨a', ha', hR⟩ := ih hb
      exact ⟨a', List.mem_cons_of_mem _ ha', hR⟩

/-- The counters of the loop are those of the packets sent. -/
structure Accounts (earlier : List Bytes) (w : Worker) : Prop where
  packetCount : w.packetCount = UInt64.ofNat earlier.length
  payloadOctets : w.payloadOctets = UInt64.ofNat (earlier.map payloadSize).sum

theorem Accounts.init : Accounts [] {} := ⟨rfl, rfl⟩

/-! ## Sending a group -/

theorem Worker.attempt_eq_ok {α : Type} {w : Worker} {step : Except String α} {a : α} :
    w.attempt step = .ok a ↔ step = .ok a := by
  cases step with
  | error what => exact iff_of_false (fun h => nomatch h) fun h => nomatch h
  | ok b => exact ⟨fun h => congrArg Except.ok (Except.ok.inj h),
      fun h => congrArg Except.ok (Except.ok.inj h)⟩

theorem Worker.send_eq_ok {network : Network} {w w' : Worker} {datagram : Datagram} :
    w.send network datagram = .ok w'
      ↔ network w.sent = true ∧ w' = { w with sent := w.sent ++ [datagram] } := by
  unfold Worker.send
  split
  · next h => exact ⟨fun hw => ⟨h, (Except.ok.inj hw).symm⟩, fun hw => by rw [hw.2]⟩
  · next h => exact iff_of_false (fun hw => nomatch hw) fun hw => h hw.1

theorem Worker.send_error {network : Network} {w : Worker} {datagram : Datagram}
    {e : WorkerError} (h : w.send network datagram = .error e) : e.worker = w := by
  unfold Worker.send at h
  split at h
  · cases h
  · rw [← Except.error.inj h]

theorem Worker.sendPackets_ok {network : Network} {packets earlier : List Bytes}
    {w w' : Worker} (h : w.sendPackets network packets = .ok w') (hw : Accounts earlier w)
    (hparsed : ∀ packet ∈ packets, ∃ parsed, parseRtpPacket packet = some parsed
      ∧ parsed.payload.length = payloadSize packet) :
    w'.sent = w.sent ++ packets.map .rtp ∧ Accounts (earlier ++ packets) w'
      ∧ w'.rtpClockAligned = w.rtpClockAligned
      ∧ w'.rtpClockAlignment = w.rtpClockAlignment := by
  induction packets generalizing w earlier with
  | nil =>
    obtain rfl := Except.ok.inj h
    simpa using hw
  | cons packet packets ih =>
    obtain ⟨parsed, hparse, hsize⟩ := hparsed packet List.mem_cons_self
    rw [Worker.sendPackets] at h
    obtain ⟨w₁, hsend, h⟩ := bind_eq_ok.mp h
    obtain ⟨_, rfl⟩ := Worker.send_eq_ok.mp hsend
    have hcount : Accounts (earlier ++ [packet])
        { w with
          sent := w.sent ++ [.rtp packet]
          payloadOctets := w.payloadOctets + UInt64.ofNat parsed.payload.length
          packetCount := w.packetCount + 1 } := by
      constructor
      case packetCount => simp [hw.packetCount, UInt64.ofNat_add]
      case payloadOctets => simp [hw.payloadOctets, hsize, UInt64.ofNat_add]
    simp only [hparse] at h
    obtain ⟨hsent, haccounts, hclock⟩ :=
      ih h hcount fun p hp => hparsed p (List.mem_cons_of_mem _ hp)
    refine ⟨?_, ?_, hclock⟩
    · simpa using hsent
    · simpa using haccounts

theorem Worker.sendPackets_error {network : Network} {packets : List Bytes} {w : Worker}
    {e : WorkerError} (h : w.sendPackets network packets = .error e) :
    ∃ unsent, e.worker.sent ++ unsent = w.sent ++ packets.map .rtp := by
  induction packets generalizing w with
  | nil => cases h
  | cons packet packets ih =>
    rw [Worker.sendPackets] at h
    rcases bind_eq_error.mp h with hsend | ⟨w₁, hsend, h⟩
    · rw [Worker.send_error hsend]
      exact ⟨_, rfl⟩
    · obtain ⟨_, rfl⟩ := Worker.send_eq_ok.mp hsend
      obtain ⟨unsent, hunsent⟩ := ih h
      exact ⟨unsent, by simpa using hunsent⟩

/-- The sending half of a round. A frame without packets needs no case of its own. -/
def Worker.sendGroup (network : Network) (w : Worker) (group : FrameGroup) :
    Except WorkerError Worker := do
  let w ← w.send network (.rtcp group.compound)
  let w ← { w with rtcpCount := w.rtcpCount + 1 }.sendPackets network group.packets
  return { w with frameCount := w.frameCount + 1 }

theorem Worker.sendGroup_ok {network : Network} {group : FrameGroup} {earlier : List Bytes}
    {w w' : Worker} (h : w.sendGroup network group = .ok w') (hw : Accounts earlier w)
    (hparsed : ∀ packet ∈ group.packets, ∃ parsed, parseRtpPacket packet = some parsed
      ∧ parsed.payload.length = payloadSize packet) :
    w'.sent = w.sent ++ group.datagrams ∧ Accounts (earlier ++ group.packets) w'
      ∧ w'.rtpClockAligned = w.rtpClockAligned
      ∧ w'.rtpClockAlignment = w.rtpClockAlignment := by
  obtain ⟨w₁, hsend, h⟩ := bind_eq_ok.mp h
  obtain ⟨_, rfl⟩ := Worker.send_eq_ok.mp hsend
  obtain ⟨w₂, hpackets, h⟩ := bind_eq_ok.mp h
  obtain rfl := Except.ok.inj h
  obtain ⟨hsent, haccounts, hclock⟩ := Worker.sendPackets_ok hpackets ⟨hw.1, hw.2⟩ hparsed
  refine ⟨?_, ⟨haccounts.1, haccounts.2⟩, hclock⟩
  simpa [FrameGroup.datagrams] using hsent

theorem Worker.sendGroup_error {network : Network} {group : FrameGroup} {w : Worker}
    {e : WorkerError} (h : w.sendGroup network group = .error e) :
    ∃ unsent, e.worker.sent ++ unsent = w.sent ++ group.datagrams := by
  rcases bind_eq_error.mp h with hsend | ⟨w₁, hsend, h⟩
  · rw [Worker.send_error hsend]
    exact ⟨_, rfl⟩
  · obtain ⟨_, rfl⟩ := Worker.send_eq_ok.mp hsend
    rcases bind_eq_error.mp h with hpackets | ⟨_, _, h⟩
    · obtain ⟨unsent, hunsent⟩ := Worker.sendPackets_error hpackets
      exact ⟨unsent, by simpa [FrameGroup.datagrams] using hunsent⟩
    · cases h

namespace FrameTransmitter

/-! ## One round -/

/-- The time a round gives its frame. -/
def frameTimeNs (queued : TransmitFrame × Nat) : Nat :=
  if queued.1.nominalTimeNs ≠ 0 then queued.1.nominalTimeNs
  else if queued.1.captureTimeNs ≠ 0 then queued.1.captureTimeNs
  else queued.2

/-- The wall time in the report of a frame. -/
def wallNs (c : FrameTransmitter) (queued : TransmitFrame × Nat) : Nat :=
  c.toUnixNs (frameTimeNs queued)

/-- The worker's clock in the round of a frame. -/
def aligned (c : FrameTransmitter) (w : Worker)
    (queued : TransmitFrame × Nat) : Worker :=
  align w (c.wallNs queued) queued.1.rtpTimestamp

@[simp] theorem align_sent (w : Worker) (wallNs : Nat) (rtpTimestamp : UInt32) :
    (align w wallNs rtpTimestamp).sent = w.sent := by
  unfold align
  split <;> rfl

@[simp] theorem align_rtpClockAligned (w : Worker) (wallNs : Nat) (rtpTimestamp : UInt32) :
    (align w wallNs rtpTimestamp).rtpClockAligned = true := by
  unfold align
  split
  · assumption
  · rfl

/-- Once fixed, the alignment stays. -/
theorem align_of_aligned {w : Worker} (h : w.rtpClockAligned = true) (wallNs : Nat)
    (rtpTimestamp : UInt32) : align w wallNs rtpTimestamp = w := if_pos h

theorem accounts_align {earlier : List Bytes} {w : Worker} (h : Accounts earlier w)
    (wallNs : Nat) (rtpTimestamp : UInt32) :
    Accounts earlier (align w wallNs rtpTimestamp) := by
  unfold align
  split
  · exact h
  · exact ⟨h.packetCount, h.payloadOctets⟩

/-- What a round puts in the report of a frame, the clock alignment given. -/
structure ReportedAt (c : FrameTransmitter) (alignment : UInt32) (earlier : List Bytes)
    (queued : TransmitFrame × Nat) (group : FrameGroup) : Prop
    extends Reported earlier queued group where
  ptpSeconds : Rtcp.readU32 group.compound 8 = UInt32.ofNat (c.wallNs queued / 1000000000)
  ptpNanoseconds : Rtcp.readU32 group.compound 12
    = UInt32.ofNat (c.wallNs queued % 1000000000)
  aligned : Rtcp.readU32 group.compound 16 = queued.1.rtpTimestamp + alignment

theorem makeIpmxRtcpCompound_packetType {report : IpmxRtcpSenderReport} {output : Bytes}
    (h : makeIpmxRtcpCompound report = .ok output) : output[1]? = some 200 := by
  obtain ⟨_, block, sdes, _, _, _, rfl⟩ := makeIpmxRtcpCompound_eq h
  rfl

/-- The compound and the packets of a round are a group. -/
theorem reportedAt_of_compound {c : FrameTransmitter} {w : Worker} {earlier : List Bytes}
    {queued : TransmitFrame × Nat} {compound : Bytes} {packets : List Bytes} {alignment : UInt32}
    (hw : Accounts earlier w)
    (hcompound : makeIpmxRtcpCompound
      (c.report w (c.wallNs queued) (queued.1.rtpTimestamp + alignment)) = .ok compound)
    (hpackets : List.Forall₂ (Rewritten (queued.1.rtpTimestamp + alignment))
      queued.1.rtpPackets packets) :
    ReportedAt c alignment earlier queued { compound, packets } := by
  obtain ⟨_, hseconds, hnanoseconds, htimestamp, hcount, hoctets⟩ :=
    makeIpmxRtcpCompound_fields hcompound
  constructor
  case toReported =>
    constructor
    case packetType => exact makeIpmxRtcpCompound_packetType hcompound
    case rtpTimestamp => rw [htimestamp]; exact hpackets
    case packetCount => rw [hcount]; simp [report, hw.packetCount]
    case octetCount => rw [hoctets]; simp [report, hw.payloadOctets]
  case ptpSeconds => exact hseconds
  case ptpNanoseconds => exact hnanoseconds
  case aligned => exact htimestamp

/-- A round as its three fallible steps and the sending of their results. -/
theorem transmit_eq (c : FrameTransmitter) (network : Network) (w : Worker)
    (queued : TransmitFrame × Nat) :
    c.transmit network queued.2 w queued.1 = (do
      let _schedule ← w.attempt (makeIpmxFrameSchedule (frameTimeNs queued)
        c.timing.encoderDelayNs c.timing.senderReportsDelayNs c.timing.accessUnitOffsetNs)
      let packets ← (c.aligned w queued).attempt (rewriteTimestamps
        (queued.1.rtpTimestamp + (c.aligned w queued).rtpClockAlignment) queued.1.rtpPackets)
      let compound ← (c.aligned w queued).attempt (makeIpmxRtcpCompound
        (c.report (c.aligned w queued) (c.wallNs queued)
          (queued.1.rtpTimestamp + (c.aligned w queued).rtpClockAlignment)))
      (c.aligned w queued).sendGroup network { compound, packets }) := by
  refine bind_congr fun _ => bind_congr fun packets => bind_congr fun compound => ?_
  -- the shortcut of a frame without packets is the sending loop over none
  cases packets with
  | nil => rfl
  | cons packet packets => rfl

/-- **A round**: it throws before it has sent anything, or it sends the group of its frame. -/
theorem transmit_cases (c : FrameTransmitter) (network : Network) {earlier : List Bytes}
    {w : Worker} (hw : Accounts earlier w) (queued : TransmitFrame × Nat)
    (hpackets : ∀ packet ∈ queued.1.rtpPackets, Packetized packet) :
    (∃ e, c.transmit network queued.2 w queued.1 = .error e ∧ e.worker.sent = w.sent)
      ∨ ∃ group, ReportedAt c (c.aligned w queued).rtpClockAlignment earlier queued group
        ∧ c.transmit network queued.2 w queued.1
          = (c.aligned w queued).sendGroup network group := by
  obtain ⟨rewritten, hrewrite, hall⟩ := rewriteTimestamps_packetized
    (queued.1.rtpTimestamp + (c.aligned w queued).rtpClockAlignment) hpackets
  rw [transmit_eq, hrewrite]
  cases makeIpmxFrameSchedule (frameTimeNs queued) c.timing.encoderDelayNs
      c.timing.senderReportsDelayNs c.timing.accessUnitOffsetNs with
  | error what => exact .inl ⟨⟨what, w⟩, rfl, rfl⟩
  | ok schedule =>
    cases hcompound : makeIpmxRtcpCompound (c.report (c.aligned w queued) (c.wallNs queued)
        (queued.1.rtpTimestamp + (c.aligned w queued).rtpClockAlignment)) with
    | error what => exact .inl ⟨⟨what, c.aligned w queued⟩, rfl, align_sent _ _ _⟩
    | ok compound =>
      refine .inr ⟨{ compound, packets := rewritten }, ?_, rfl⟩
      exact reportedAt_of_compound (accounts_align hw _ _) hcompound hall

theorem transmit_ok {c : FrameTransmitter} {network : Network} {earlier : List Bytes}
    {w w' : Worker} {queued : TransmitFrame × Nat}
    (h : c.transmit network queued.2 w queued.1 = .ok w') (hw : Accounts earlier w)
    (hpackets : ∀ packet ∈ queued.1.rtpPackets, Packetized packet) :
    ∃ group, ReportedAt c (c.aligned w queued).rtpClockAlignment earlier queued group
      ∧ w'.sent = w.sent ++ group.datagrams ∧ Accounts (earlier ++ group.packets) w'
      ∧ w'.rtpClockAligned = true
      ∧ w'.rtpClockAlignment = (c.aligned w queued).rtpClockAlignment := by
  rcases transmit_cases c network hw queued hpackets with ⟨e, hthrow, _⟩ | ⟨group, hgroup, hsend⟩
  · cases hthrow.symm.trans h
  · have hparsed : ∀ packet ∈ group.packets, ∃ parsed, parseRtpPacket packet = some parsed
        ∧ parsed.payload.length = payloadSize packet := by
      intro packet hpacket
      obtain ⟨_, _, hrewritten⟩ := forall₂_right hgroup.rtpTimestamp hpacket
      obtain ⟨parsed, _, hparse, hsize⟩ := hrewritten.parsed
      exact ⟨_, hparse, hsize⟩
    obtain ⟨hsent, haccounts, haligned, halignment⟩ :=
      Worker.sendGroup_ok (hsend.symm.trans h) (accounts_align hw _ _) hparsed
    refine ⟨group, hgroup, ?_, haccounts, ?_, halignment⟩
    · rw [hsent, aligned, align_sent]
    · rw [haligned, aligned, align_rtpClockAligned]

theorem transmit_error {c : FrameTransmitter} {network : Network} {earlier : List Bytes}
    {w : Worker} {e : WorkerError} {queued : TransmitFrame × Nat}
    (h : c.transmit network queued.2 w queued.1 = .error e) (hw : Accounts earlier w)
    (hpackets : ∀ packet ∈ queued.1.rtpPackets, Packetized packet) :
    e.worker.sent = w.sent
      ∨ ∃ group unsent, ReportedAt c (c.aligned w queued).rtpClockAlignment earlier queued group
        ∧ e.worker.sent ++ unsent = w.sent ++ group.datagrams := by
  rcases transmit_cases c network hw queued hpackets with ⟨e', hthrow, hsent⟩ | ⟨group, hgroup, hsend⟩
  · obtain rfl := Except.error.inj (hthrow.symm.trans h)
    exact .inl hsent
  · obtain ⟨unsent, hunsent⟩ := Worker.sendGroup_error (hsend.symm.trans h)
    exact .inr ⟨group, unsent, hgroup, by rw [hunsent, aligned, align_sent]⟩

/-! ## Whole runs -/

/-- The trace of a run from the start. A run that threw sent the front of the transcript of
the frames it had taken from the queue. -/
structure Traced (R : List Bytes → TransmitFrame × Nat → FrameGroup → Prop)
    (frames : List (TransmitFrame × Nat)) (result : Except WorkerError Worker) : Prop where
  ok : ∀ w, result = .ok w → Transcript R [] frames w.sent
  error : ∀ e, result = .error e → ∃ n ≤ frames.length, ∃ unsent,
    Transcript R [] (frames.take n) (e.worker.sent ++ unsent)

/-- The clock of every frame of a run is aligned as that of its first. -/
theorem run_ok {c : FrameTransmitter} {network : Network} {frames : List (TransmitFrame × Nat)}
    {earlier : List Bytes} {w w' : Worker} {alignment : UInt32}
    (h : c.run network w frames = .ok w') (hw : Accounts earlier w)
    (halign : ∀ queued ∈ frames.head?, (c.aligned w queued).rtpClockAlignment = alignment)
    (hframes : ∀ queued ∈ frames, ∀ packet ∈ queued.1.rtpPackets, Packetized packet) :
    ∃ trace, w'.sent = w.sent ++ trace
      ∧ Transcript (ReportedAt c alignment) earlier frames trace := by
  induction frames generalizing w earlier with
  | nil =>
    obtain rfl := Except.ok.inj h
    exact ⟨[], by simp, .done⟩
  | cons queued frames ih =>
    obtain ⟨w₁, hround, h⟩ := bind_eq_ok.mp h
    obtain ⟨group, hgroup, hsent, haccounts, haligned, halignment⟩ :=
      transmit_ok hround hw (hframes queued List.mem_cons_self)
    rw [halign queued (by simp)] at hgroup halignment
    obtain ⟨trace, htrace, hlater⟩ := ih h haccounts
      (fun next _ => by rw [aligned, align_of_aligned haligned, halignment])
      (fun next hnext => hframes next (List.mem_cons_of_mem _ hnext))
    exact ⟨group.datagrams ++ trace, by rw [htrace, hsent, List.append_assoc],
      .frame hgroup hlater⟩

theorem run_error {c : FrameTransmitter} {network : Network}
    {frames : List (TransmitFrame × Nat)} {earlier : List Bytes} {w : Worker} {e : WorkerError}
    {alignment : UInt32}
    (h : c.run network w frames = .error e) (hw : Accounts earlier w)
    (halign : ∀ queued ∈ frames.head?, (c.aligned w queued).rtpClockAlignment = alignment)
    (hframes : ∀ queued ∈ frames, ∀ packet ∈ queued.1.rtpPackets, Packetized packet) :
    ∃ n ≤ frames.length, ∃ unsent trace, e.worker.sent ++ unsent = w.sent ++ trace
      ∧ Transcript (ReportedAt c alignment) earlier (frames.take n) trace := by
  induction frames generalizing w earlier with
  | nil => cases h
  | cons queued frames ih =>
    rcases bind_eq_error.mp h with hround | ⟨w₁, hround, h⟩
    · rcases transmit_error hround hw (hframes queued List.mem_cons_self) with
        hsent | ⟨group, unsent, hgroup, hunsent⟩
      · exact ⟨0, by simp, [], [], by rw [hsent], .done⟩
      · rw [halign queued (by simp)] at hgroup
        exact ⟨1, by simp, unsent, group.datagrams ++ [], by rw [hunsent, List.append_nil],
          .frame hgroup .done⟩
    · obtain ⟨group, hgroup, hsent, haccounts, haligned, halignment⟩ :=
        transmit_ok hround hw (hframes queued List.mem_cons_self)
      rw [halign queued (by simp)] at hgroup halignment
      obtain ⟨n, hn, unsent, trace, htrace, hlater⟩ := ih h haccounts
        (fun next _ => by rw [aligned, align_of_aligned haligned, halignment])
        (fun next hnext => hframes next (List.mem_cons_of_mem _ hnext))
      refine ⟨n + 1, by simpa using hn, unsent, group.datagrams ++ trace, ?_, .frame hgroup hlater⟩
      rw [htrace, hsent, List.append_assoc]

/-- **What a run sends**, with the alignment its first frame fixes. -/
theorem run_traced (c : FrameTransmitter) (network : Network)
    (frames : List (TransmitFrame × Nat)) (alignment : UInt32)
    (halign : ∀ queued ∈ frames.head?,
      clockTimestamp (c.wallNs queued) - queued.1.rtpTimestamp = alignment)
    (hframes : ∀ queued ∈ frames, ∀ packet ∈ queued.1.rtpPackets, Packetized packet) :
    Traced (ReportedAt c alignment) frames (c.run network {} frames) := by
  constructor
  case ok =>
    intro w h
    obtain ⟨trace, htrace, htranscript⟩ := run_ok h Accounts.init halign hframes
    rw [List.nil_append] at htrace
    rw [htrace]
    exact htranscript
  case error =>
    intro e h
    obtain ⟨n, hn, unsent, trace, htrace, htranscript⟩ :=
      run_error h Accounts.init halign hframes
    rw [List.nil_append] at htrace
    rw [← htrace] at htranscript
    exact ⟨n, hn, unsent, htranscript⟩

theorem Traced.mono {R R' : List Bytes → TransmitFrame × Nat → FrameGroup → Prop}
    {frames : List (TransmitFrame × Nat)} {result : Except WorkerError Worker}
    (h : Traced R frames result)
    (hR : ∀ earlier queued group, queued ∈ frames → R earlier queued group →
      R' earlier queued group) : Traced R' frames result := by
  constructor
  case ok =>
    intro w hw
    exact (h.ok w hw).mono hR
  case error =>
    intro e he
    obtain ⟨n, hn, unsent, htranscript⟩ := h.error e he
    refine ⟨n, hn, unsent, htranscript.mono ?_⟩
    intro earlier queued group hqueued
    exact hR earlier queued group (List.mem_of_mem_take hqueued)

/-- **The discipline of the Sender Reports**, over every run. -/
theorem run_reports (c : FrameTransmitter) (network : Network)
    (frames : List (TransmitFrame × Nat))
    (hframes : ∀ queued ∈ frames, ∀ packet ∈ queued.1.rtpPackets, Packetized packet) :
    Traced Reported frames (c.run network {} frames) := by
  have hrun : ∃ alignment, Traced (ReportedAt c alignment) frames (c.run network {} frames) := by
    cases frames with
    | nil => exact ⟨0, run_traced c network [] 0 (by simp) hframes⟩
    | cons first frames =>
      refine ⟨clockTimestamp (c.wallNs first) - first.1.rtpTimestamp,
        run_traced c network (first :: frames) _ ?_ hframes⟩
      intro queued hqueued
      obtain rfl : first = queued := by simpa using hqueued
      rfl
  obtain ⟨alignment, htraced⟩ := hrun
  exact htraced.mono fun _ _ _ _ hgroup => hgroup.toReported

/-! ## A run -/

/-- A 50 Hz sender with the clocks it read at its start. -/
def transmitter50 : FrameTransmitter where
  ssrc := 0x01020304
  tsRefclk := ascii "localmac=02-00-00-00-00-01"
  cname := ascii "sender"
  video := { width := 640, height := 480, fpsNumerator := 50 }
  h264 := { profileLevelId := (66, 0, 30) }
  timing := { encoderDelayNs := 2000, senderReportsDelayNs := 1000, accessUnitOffsetNs := 10 }
  wallReferenceNs := 1700000000000000000
  qpcReferenceNs := 5000000000

def packetizer50 : RtpPacketizer :=
  ⟨64, 96, 65535, 0x01020304, by decide, by decide, by decide⟩

/-- The frame of an access unit, captured a little after its nominal time. -/
def frame50 (nals : List NalUnit) (timestamp : UInt32) (nominalTimeNs : Nat) : TransmitFrame where
  rtpTimestamp := timestamp
  captureTimeNs := nominalTimeNs + 100
  rtpPackets := (packetizer50.packetize nals timestamp (UInt64.ofNat (nominalTimeNs + 100))).1
  nominalTimeNs := nominalTimeNs

theorem frame50_packetized (nals : List NalUnit) (timestamp : UInt32) (nominalTimeNs : Nat) :
    ∀ packet ∈ (frame50 nals timestamp nominalTimeNs).rtpPackets, Packetized packet :=
  fun _ h => ⟨packetizer50, nals, timestamp, _, h⟩

/-- Two units in one packet, no packet, then a unit in three fragments. -/
def frames50 : List (TransmitFrame × Nat) :=
  [(frame50 [[0x67, 1, 2], [0x68, 3]] 77 5000000000, 0),
   (frame50 [] 1877 5020000000, 0),
   (frame50 [0x65 :: List.replicate 80 7] 3677 5040000000, 0)]

/-- The frames are sent in seven datagrams, three of them reports. -/
theorem run_reports_frames50 :
    (transmitter50.run (fun _ => true) {} frames50).toOption.map (fun w => w.sent.length) = some 7
      ∧ Traced Reported frames50 (transmitter50.run (fun _ => true) {} frames50) := by
  refine ⟨?_, run_reports transmitter50 (fun _ => true) frames50 ?_⟩
  · decide +kernel
  · intro queued hqueued
    simp only [frames50, List.mem_cons, List.not_mem_nil, or_false] at hqueued
    rcases hqueued with rfl | rfl | rfl <;> exact frame50_packetized _ _ _

end FrameTransmitter
end Ipmx.Sender
