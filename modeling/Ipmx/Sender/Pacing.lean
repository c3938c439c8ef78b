/-
Ipmx.Sender.Pacing — the worker loop of `FrameTransmitter` with its clock.

`FrameTransmitter.transmit` is a round of the loop without its waits. Here the
round reads the clock, waits, asks the shaper, keeps the statistics and, if
there is a capture, passes on what it has sent. The clock is the list of its
readings to come, and a run for which they do not suffice still waits.
`PreciseWaiter.waitUntil_readings` says that a wait reads the clock up to its
deadline. The counters are natural numbers; `reports` and `sent` are records of
the run.
-/
import Ipmx.Sdp.MakeSdp
import Ipmx.Sender.FrameTransmitter
import Ipmx.Sender.Recorder
import Ipmx.Timing.FrameIntervalTracker
import Ipmx.Timing.PreciseWaiter
import Ipmx.Timing.TrafficShaper

namespace Ipmx.Sender

open Ipmx.Lib
open Rtcp Rtp Timing

/-- The settings of the worker that its clock is held against, and the capture it makes. -/
structure Pacing where
  transmitter : FrameTransmitter
  shaper : Tr107TrafficShaper
  latePacketThresholdNs : Nat := 1000000
  mediaPort : UInt16 := 5004
  capture : Option CaptureSchedule := none

/-- How a run ends before its last frame is sent. -/
inductive PacingStop
  | threw (error : WorkerError)
  | waiting
deriving DecidableEq, Repr

/-- The times of a sender report. -/
structure ReportTiming where
  scheduledNs : Nat
  actualNs : Nat
  completedNs : Nat
deriving DecidableEq, Repr

/-- The times of an RTP packet: what the shaper was asked for, what it answered, and when the
packet was sent. -/
structure PacketTiming where
  first : Bool
  bytes : Nat
  requestedNs : Nat
  scheduledNs : Nat
  actualNs : Nat
deriving DecidableEq, Repr

def PacketTiming.latenessNs (t : PacketTiming) : Nat :=
  if t.actualNs > t.scheduledNs then t.actualNs - t.scheduledNs else 0

/-- The variables of the worker that depend on the clock, and its `pcap`. -/
structure Pacer where
  clock : List Nat
  shaper : Tr107TrafficShaper.State := {}
  networkCompatibility : NetworkCompatibilityTracker
  intervals : FrameIntervalTracker := {}
  srIntervals : FrameIntervalTracker := {}
  minimumSrRtpGapNs : Nat := Word64.maximum
  maximumSrSendDurationNs : Nat := 0
  maximumRtpSendDurationNs : Nat := 0
  maximumSenderReportLatenessNs : Nat := 0
  maximumEncoderCpbLatenessNs : Nat := 0
  maximumPacketLatenessNs : Nat := 0
  maximumSendJitterNs : Nat := 0
  latePackets : Nat := 0
  previousPacketActualNs : Nat := 0
  previousPacketScheduledNs : Nat := 0
  pcap : Option Recorder := none
  reports : List ReportTiming := []
  sent : List PacketTiming := []
deriving DecidableEq, Repr

namespace Pacer

/-! ## The clock -/

def setClock (p : Pacer) (clock : List Nat) : Pacer := { p with clock }

def setShaper (p : Pacer) (shaper : Tr107TrafficShaper.State) : Pacer := { p with shaper }

def setPcap (p : Pacer) (pcap : Option Recorder) : Pacer := { p with pcap }

@[simp] theorem setClock_clock (p : Pacer) (clock : List Nat) : (p.setClock clock).clock = clock :=
  rfl

@[simp] theorem setClock_shaper (p : Pacer) (clock : List Nat) :
    (p.setClock clock).shaper = p.shaper := rfl

@[simp] theorem setShaper_clock (p : Pacer) (shaper : Tr107TrafficShaper.State) :
    (p.setShaper shaper).clock = p.clock := rfl

def qpcNowNs (p : Pacer) : Except PacingStop (Nat × Pacer) :=
  match p.clock with
  | [] => .error .waiting
  | nowNs :: clock => .ok (nowNs, p.setClock clock)

def waitUntil (p : Pacer) (deadlineNs : Nat) : Except PacingStop Pacer :=
  match readUntil deadlineNs p.clock with
  | none => .error .waiting
  | some clock => .ok (p.setClock clock)

/-! ## The statistics -/

def noteReport (p : Pacer) (t : ReportTiming) : Pacer :=
  { p with
    maximumSenderReportLatenessNs := max p.maximumSenderReportLatenessNs
      (if t.actualNs > t.scheduledNs then t.actualNs - t.scheduledNs else 0)
    srIntervals := p.srIntervals.observe (UInt64.ofNat t.actualNs)
    maximumSrSendDurationNs := max p.maximumSrSendDurationNs
      (Word64.sub t.completedNs t.actualNs)
    reports := p.reports ++ [t] }

def noteEncoderCpb (p : Pacer) (scheduledNs actualNs : Nat) : Pacer :=
  { p with
    maximumEncoderCpbLatenessNs := max p.maximumEncoderCpbLatenessNs
      (if actualNs > scheduledNs then actualNs - scheduledNs else 0) }

/-- The jitter of a packet against the one before it, if both are in order. -/
def sendJitterNs (p : Pacer) (t : PacketTiming) : Nat :=
  if p.previousPacketActualNs ≠ 0 ∧ t.actualNs ≥ p.previousPacketActualNs
      ∧ t.scheduledNs ≥ p.previousPacketScheduledNs then
    let actualInterval := t.actualNs - p.previousPacketActualNs
    let scheduledInterval := t.scheduledNs - p.previousPacketScheduledNs
    if actualInterval ≥ scheduledInterval then actualInterval - scheduledInterval
    else scheduledInterval - actualInterval
  else 0

/-- What is noted of a packet in front of its `send`. -/
def notePacket (p : Pacer) (latePacketThresholdNs reportCompletedNs : Nat) (t : PacketTiming) :
    Pacer :=
  { p with
    maximumPacketLatenessNs := max p.maximumPacketLatenessNs t.latenessNs
    latePackets := p.latePackets + if t.latenessNs > latePacketThresholdNs then 1 else 0
    maximumSendJitterNs := max p.maximumSendJitterNs (p.sendJitterNs t)
    previousPacketActualNs := t.actualNs
    previousPacketScheduledNs := t.scheduledNs
    intervals := if t.first then p.intervals.observe (UInt64.ofNat t.actualNs) else p.intervals
    minimumSrRtpGapNs :=
      if t.first then min p.minimumSrRtpGapNs (Word64.sub t.actualNs reportCompletedNs)
      else p.minimumSrRtpGapNs
    networkCompatibility := p.networkCompatibility.observe t.actualNs
    sent := p.sent ++ [t] }

def noteRtpSend (p : Pacer) (actualNs completedNs : Nat) : Pacer :=
  { p with
    maximumRtpSendDurationNs := max p.maximumRtpSendDurationNs
      (Word64.sub completedNs actualNs) }

/-- The gap that `update_stats` publishes. -/
def publishedGapNs (p : Pacer) : Nat :=
  if p.minimumSrRtpGapNs = Word64.maximum then 0 else p.minimumSrRtpGapNs

end Pacer

namespace Pacing

/-! ## The capture -/

/-- What is passed to `pcap->enqueue` for a datagram. -/
def entry (c : Pacing) (bytes : Bytes) (sentNs : Nat) (port : UInt16) : Pcap.Entry where
  payload := bytes
  unixTimeNs := UInt64.ofNat (c.transmitter.toUnixNs sentNs)
  sourcePort := port
  destinationPort := port

/-- `pcap->enqueue` of a report, on the port behind the media port. -/
def recordReport (c : Pacing) (w : Worker) (p : Pacer) (compound : Bytes) (sentNs : Nat) :
    Except PacingStop Pacer :=
  match p.pcap with
  | none => .ok p
  | some recorder => do
    let rtcpPort ← (w.attempt (Sdp.reservedRtcpPort c.mediaPort)).mapError .threw
    let recorder ← (w.attempt (recorder.enqueue (c.entry compound sentNs rtcpPort))).mapError .threw
    return p.setPcap recorder

/-- `pcap->enqueue` of a packet. -/
def recordPacket (c : Pacing) (w : Worker) (p : Pacer) (packet : Bytes) (sentNs : Nat) :
    Except PacingStop Pacer :=
  match p.pcap with
  | none => .ok p
  | some recorder => do
    let recorder ← (w.attempt (recorder.enqueue (c.entry packet sentNs c.mediaPort))).mapError
      .threw
    return p.setPcap recorder

/-! ## The worker loop -/

/-- The time the shaper is asked for. -/
def requestNs (c : Pacing) (schedule : IpmxFrameSchedule) (reportCompletedNs nowNs : Nat)
    (first : Bool) : Nat :=
  if first then
    max schedule.firstRtpTimeNs
      (max nowNs (Word64.wrap (reportCompletedNs + c.transmitter.timing.accessUnitOffsetNs)))
  else nowNs

/-- One packet of a frame. -/
def sendPacket (c : Pacing) (network : Network) (schedule : IpmxFrameSchedule)
    (reportCompletedNs : Nat) (first : Bool) (w : Worker) (p : Pacer) (packet : Bytes) :
    Except PacingStop (Worker × Pacer) := do
  let (nowNs, p) ← p.qpcNowNs
  let requestedNs := c.requestNs schedule reportCompletedNs nowNs first
  let (scheduledNs, shaper) := c.shaper.scheduleNs p.shaper requestedNs packet.length
  let p ← (p.setShaper shaper).waitUntil scheduledNs
  let (actualNs, p) ← p.qpcNowNs
  let p := p.notePacket c.latePacketThresholdNs reportCompletedNs
    { first, bytes := packet.length, requestedNs, scheduledNs, actualNs }
  let octets := match parseRtpPacket packet with
    | some parsed => UInt64.ofNat parsed.payload.length
    | none => 0
  let w ← ({ w with payloadOctets := w.payloadOctets + octets }.send network
    (.rtp packet)).mapError .threw
  let (completedNs, p) ← p.qpcNowNs
  let w := { w with packetCount := w.packetCount + 1 }
  let p ← c.recordPacket w (p.noteRtpSend actualNs completedNs) packet actualNs
  return (w, p)

/-- The sending loop over the packets of a frame. -/
def sendPackets (c : Pacing) (network : Network) (schedule : IpmxFrameSchedule)
    (reportCompletedNs : Nat) :
    Bool → Worker → Pacer → List Bytes → Except PacingStop (Worker × Pacer)
  | _, w, p, [] => .ok (w, p)
  | first, w, p, packet :: packets => do
    let (w, p) ← c.sendPacket network schedule reportCompletedNs first w p packet
    c.sendPackets network schedule reportCompletedNs false w p packets

/-- The part of a round behind its report. -/
def sendFrame (c : Pacing) (network : Network) (schedule : IpmxFrameSchedule)
    (reportCompletedNs : Nat) (w : Worker) (p : Pacer) (packets : List Bytes) :
    Except PacingStop (Worker × Pacer) :=
  if packets.isEmpty then
    .ok ({ w with frameCount := w.frameCount + 1 }, p)
  else do
    let p ← p.waitUntil schedule.encoderCpbInsertionTimeNs
    let (actualNs, p) ← p.qpcNowNs
    let p := p.noteEncoderCpb schedule.encoderCpbInsertionTimeNs actualNs
    let (w, p) ← c.sendPackets network schedule reportCompletedNs true w p packets
    return ({ w with frameCount := w.frameCount + 1 }, p)

/-- The capture time of a frame, or a reading that stands in for it. -/
def captureTime (p : Pacer) (frame : TransmitFrame) : Except PacingStop (Nat × Pacer) :=
  if frame.captureTimeNs ≠ 0 then .ok (frame.captureTimeNs, p) else p.qpcNowNs

/-- One round of the worker loop. -/
def transmit (c : Pacing) (network : Network) (w : Worker) (p : Pacer) (frame : TransmitFrame) :
    Except PacingStop (Worker × Pacer) := do
  let (captureTimeNs, p) ← captureTime p frame
  let frameTimeNs := if frame.nominalTimeNs ≠ 0 then frame.nominalTimeNs else captureTimeNs
  let schedule ← (w.attempt (makeIpmxFrameSchedule frameTimeNs
    c.transmitter.timing.encoderDelayNs c.transmitter.timing.senderReportsDelayNs
    c.transmitter.timing.accessUnitOffsetNs)).mapError .threw
  let wallNs := c.transmitter.toUnixNs frameTimeNs
  let w := FrameTransmitter.align w wallNs frame.rtpTimestamp
  let rtpTimestamp := frame.rtpTimestamp + w.rtpClockAlignment
  let rtpPackets ← (w.attempt (rewriteTimestamps rtpTimestamp frame.rtpPackets)).mapError .threw
  let compound ← (w.attempt (makeIpmxRtcpCompound
    (c.transmitter.report w wallNs rtpTimestamp))).mapError .threw
  let p ← p.waitUntil schedule.senderReportTimeNs
  let (reportActualNs, p) ← p.qpcNowNs
  let w ← (w.send network (.rtcp compound)).mapError .threw
  let (reportCompletedNs, p) ← p.qpcNowNs
  let p := p.noteReport ⟨schedule.senderReportTimeNs, reportActualNs, reportCompletedNs⟩
  let p ← c.recordReport w p compound reportActualNs
  let w := { w with rtcpCount := w.rtcpCount + 1 }
  c.sendFrame network schedule reportCompletedNs w p rtpPackets

/-- The worker loop over the frames taken from the queue. -/
def run (c : Pacing) (network : Network) :
    Worker → Pacer → List TransmitFrame → Except PacingStop (Worker × Pacer)
  | w, p, [] => .ok (w, p)
  | w, p, frame :: frames => do
    let (w, p) ← c.transmit network w p frame
    c.run network w p frames

/-- The worker's variables in front of the loop. -/
def initial? (c : Pacing) (clock : List Nat) : Option Pacer :=
  (NetworkCompatibilityTracker.new? c.shaper.maximumPacketsPerSecond c.shaper.cmax
    NetworkCompatibilityTracker.defaultBetaNumerator
    NetworkCompatibilityTracker.defaultBetaDenominator).map fun networkCompatibility =>
      { clock, networkCompatibility, pcap := c.capture.map fun schedule => { schedule } }

/-- `pcap->close()` behind the loop. -/
def closePcap (w : Worker) (recorder : Recorder) : Except PacingStop Recorder :=
  match recorder.close with
  | none => .error .waiting
  | some result => (w.attempt result).mapError .threw

/-- The destructor of the writer, which may wait like `close`. -/
def destroyPcap (recorder : Recorder) : Except PacingStop Recorder :=
  match recorder.destroy with
  | none => .error .waiting
  | some destroyed => .ok destroyed

/-- The end of the worker, behind its loop. -/
def finish (w : Worker) (p : Pacer) : Except PacingStop Pacer :=
  match p.pcap with
  | none => .ok p
  | some recorder => do
    let closed ← closePcap w recorder
    let destroyed ← destroyPcap closed
    return p.setPcap destroyed

/-- `shaper_compliant` of the sender's `main`. -/
def shaperCompliant (c : Pacing) (p : Pacer) : Bool :=
  p.networkCompatibility.violations = 0 && p.latePackets = 0
    && p.networkCompatibility.maximumCinst ≤ c.shaper.cmax

end Pacing
end Ipmx.Sender
