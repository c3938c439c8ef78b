/-
Ipmx.Sender.FrameTransmitter — the worker loop of `FrameTransmitter`
(`frame_transmitter.cpp`).

A round of the loop is `transmit`. It keeps what the loop sends (`sent`, in
order, on whichever socket) with the counters of the loop, and throws with the
state it was in, so that a run that ended in an exception still shows what was
sent before. Whether a send succeeds is up to the network, a function of what
was sent before. The waits, the shaper, the trackers and the capture file only
read clocks and are left out: no datagram depends on them.
-/
import Ipmx.Rtcp.Compound
import Ipmx.Timing.FrameTimeline

namespace Ipmx.Sender

open Ipmx.Lib
open Rtcp
open Rtp

/-! ## Frames and settings -/

structure TransmitFrame where
  rtpTimestamp : UInt32
  captureTimeNs : Nat
  rtpPackets : List Bytes
  nominalTimeNs : Nat
deriving DecidableEq, Repr

structure IpmxFrameSchedule where
  senderReportTimeNs : Nat
  encoderCpbInsertionTimeNs : Nat
  firstRtpTimeNs : Nat
deriving DecidableEq, Repr

/-- `make_ipmx_frame_schedule`. -/
def makeIpmxFrameSchedule (captureTimeNs encoderDelayNs senderReportsDelayNs
    accessUnitOffsetNs : Nat) : Except String IpmxFrameSchedule :=
  if captureTimeNs = 0 ∨ senderReportsDelayNs > encoderDelayNs
      ∨ captureTimeNs > Word64.maximum - encoderDelayNs
      ∨ captureTimeNs + encoderDelayNs > Word64.maximum - accessUnitOffsetNs then
    .error "invalid IPMX H.264 frame timing"
  else
    .ok
      { senderReportTimeNs := captureTimeNs + senderReportsDelayNs
        encoderCpbInsertionTimeNs := captureTimeNs + encoderDelayNs
        firstRtpTimeNs := captureTimeNs + encoderDelayNs + accessUnitOffsetNs }

structure IpmxSessionTiming where
  encoderDelayNs : Nat
  senderReportsDelayNs : Nat
  accessUnitOffsetNs : Nat
deriving DecidableEq, Repr

/-- The settings the worker loop reads, its session timing and its clock references. -/
structure FrameTransmitter where
  ssrc : UInt32
  tsRefclk : Bytes
  mediaClock : Bytes := ascii "direct=0"
  cname : Bytes
  blockVersion : UInt8 := 1
  video : IpmxVideoMediaInfo
  h264 : IpmxH264MediaInfo
  timing : IpmxSessionTiming
  wallReferenceNs : Nat
  qpcReferenceNs : Nat
deriving DecidableEq, Repr

/-! ## The worker loop -/

/-- A datagram sent, on the media socket or on the RTCP socket. -/
inductive Datagram
  | rtcp (bytes : Bytes)
  | rtp (bytes : Bytes)
deriving DecidableEq, Repr

/-- The variables of the worker loop, and what it has sent so far. -/
structure Worker where
  packetCount : UInt64 := 0
  payloadOctets : UInt64 := 0
  frameCount : UInt64 := 0
  rtcpCount : UInt64 := 0
  rtpClockAlignment : UInt32 := 0
  rtpClockAligned : Bool := false
  sent : List Datagram := []
deriving DecidableEq, Repr

/-- An exception in the worker, with the state it was thrown in. -/
structure WorkerError where
  what : String
  worker : Worker
deriving DecidableEq, Repr

abbrev Network := List Datagram → Bool

/-- `MulticastSender::send`. -/
def Worker.send (network : Network) (w : Worker) (datagram : Datagram) :
    Except WorkerError Worker :=
  if network w.sent then .ok { w with sent := w.sent ++ [datagram] }
  else .error ⟨"sendto failed", w⟩

/-- A step that does not touch the worker, made in the worker's state. -/
def Worker.attempt {α : Type} (w : Worker) (step : Except String α) : Except WorkerError α :=
  match step with
  | .ok a => .ok a
  | .error what => .error ⟨what, w⟩

/-- The four assignments to `packet[4U]`..`packet[7U]`, behind their size check. -/
def rewriteTimestamp (timestamp : UInt32) (packet : Bytes) : Except String Bytes :=
  if packet.length < 8 then
    .error "invalid RTP packet queued for transmission"
  else
    .ok ((((packet.set 4 (timestamp >>> 24).toUInt8).set 5 (timestamp >>> 16).toUInt8).set 6
      (timestamp >>> 8).toUInt8).set 7 timestamp.toUInt8)

/-- The rewriting loop over the packets of a frame. -/
def rewriteTimestamps (timestamp : UInt32) : List Bytes → Except String (List Bytes)
  | [] => .ok []
  | packet :: packets => do
    let packet ← rewriteTimestamp timestamp packet
    let packets ← rewriteTimestamps timestamp packets
    return packet :: packets

/-- The sending loop over the packets of a frame. -/
def Worker.sendPackets (network : Network) : Worker → List Bytes → Except WorkerError Worker
  | w, [] => .ok w
  | w, packet :: packets => do
    let octets := match parseRtpPacket packet with
      | some parsed => UInt64.ofNat parsed.payload.length
      | none => 0
    let w ← { w with payloadOctets := w.payloadOctets + octets }.send network (.rtp packet)
    Worker.sendPackets network { w with packetCount := w.packetCount + 1 } packets

namespace FrameTransmitter

/-- `to_unix_ns`. -/
def toUnixNs (c : FrameTransmitter) (qpcNs : Nat) : Nat :=
  if qpcNs ≥ c.qpcReferenceNs
      ∧ c.wallReferenceNs ≤ Word64.maximum - (qpcNs - c.qpcReferenceNs) then
    c.wallReferenceNs + (qpcNs - c.qpcReferenceNs)
  else if qpcNs < c.qpcReferenceNs ∧ c.qpcReferenceNs - qpcNs ≤ c.wallReferenceNs then
    c.wallReferenceNs - (c.qpcReferenceNs - qpcNs)
  else
    c.wallReferenceNs

/-- The 90 kHz clock at a wall time, computed from its seconds and nanoseconds. -/
def clockTimestamp (wallNs : Nat) : UInt32 :=
  let wallSeconds := wallNs / 1000000000
  let wallNanoseconds := wallNs % 1000000000
  UInt32.ofNat (wallSeconds * kRtpClockRate + wallNanoseconds * kRtpClockRate / 1000000000)

/-- The alignment of the RTP clock, fixed by the first frame. -/
def align (w : Worker) (wallNs : Nat) (rtpTimestamp : UInt32) : Worker :=
  if w.rtpClockAligned then w
  else
    { w with
      rtpClockAlignment := clockTimestamp wallNs - rtpTimestamp, rtpClockAligned := true }

/-- The report of a frame. -/
def report (c : FrameTransmitter) (w : Worker) (wallNs : Nat) (rtpTimestamp : UInt32) :
    IpmxRtcpSenderReport where
  ssrc := c.ssrc
  ptpSeconds := UInt32.ofNat (wallNs / 1000000000)
  ptpNanoseconds := UInt32.ofNat (wallNs % 1000000000)
  rtpTimestamp := rtpTimestamp
  packetCount := w.packetCount.toUInt32
  octetCount := w.payloadOctets.toUInt32
  blockVersion := c.blockVersion
  tsRefclk := c.tsRefclk
  mediaClock := c.mediaClock
  cname := c.cname
  video := c.video
  h264 := c.h264

/-- One round of the worker loop. `nowNs` is the clock reading that stands in for a missing
capture time. -/
def transmit (c : FrameTransmitter) (network : Network) (nowNs : Nat) (w : Worker)
    (frame : TransmitFrame) : Except WorkerError Worker := do
  let captureTimeNs := if frame.captureTimeNs ≠ 0 then frame.captureTimeNs else nowNs
  let frameTimeNs := if frame.nominalTimeNs ≠ 0 then frame.nominalTimeNs else captureTimeNs
  let _schedule ← w.attempt (makeIpmxFrameSchedule frameTimeNs c.timing.encoderDelayNs
    c.timing.senderReportsDelayNs c.timing.accessUnitOffsetNs)
  let wallNs := c.toUnixNs frameTimeNs
  let w := align w wallNs frame.rtpTimestamp
  let rtpTimestamp := frame.rtpTimestamp + w.rtpClockAlignment
  let rtpPackets ← w.attempt (rewriteTimestamps rtpTimestamp frame.rtpPackets)
  let compound ← w.attempt (makeIpmxRtcpCompound (c.report w wallNs rtpTimestamp))
  let w ← w.send network (.rtcp compound)
  let w := { w with rtcpCount := w.rtcpCount + 1 }
  if rtpPackets.isEmpty then
    return { w with frameCount := w.frameCount + 1 }
  else
    let w ← w.sendPackets network rtpPackets
    return { w with frameCount := w.frameCount + 1 }

/-- The worker loop over the frames taken from the queue, each with its clock reading. -/
def run (c : FrameTransmitter) (network : Network) (w : Worker) :
    List (TransmitFrame × Nat) → Except WorkerError Worker
  | [] => .ok w
  | (frame, nowNs) :: frames => do
    let w ← c.transmit network nowNs w frame
    c.run network w frames

end FrameTransmitter
end Ipmx.Sender
