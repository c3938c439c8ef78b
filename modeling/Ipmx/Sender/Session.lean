/-
Ipmx.Sender.Session — how `main` of the sender starts a session.

`Session` is what `main` has in hand once the options are parsed, the source is
open and the addresses are resolved. From it `main` derives the settings of the
SDP and those of the transmitter, and `Session.start` makes the SDP, the H.264
media info and the transmitter, in this order. Of the transmitter settings only
those are kept that the constructor checks or the Sender Report shows; the
sockets and the shaper are opened in the worker thread.
-/
import Ipmx.Rtcp.MediaInfo
import Ipmx.Sdp.MakeSdp
import Ipmx.Sender.FrameTransmitter

namespace Ipmx.Sender

open H264
open Ipmx.Lib
open Rtcp
open Rtp
open Sdp

/-! ## `resolve_ipmx_session_timing` -/

/-- The default encoder delay is three frame periods. -/
def resolveIpmxSessionTiming (fpsNumerator fpsDenominator : UInt32)
    (encoderDelayNs senderReportsDelayNs : Option UInt64) (accessUnitOffsetNs : UInt64) :
    Except String IpmxSessionTiming := do
  rejectIf (fpsNumerator = 0 ∨ fpsDenominator = 0) "frame rate must be non-zero"
  let framePeriodNs :=
    (1000000000 * fpsDenominator.toNat + fpsNumerator.toNat - 1) / fpsNumerator.toNat
  let defaultEncoderDelay :=
    if framePeriodNs > Word64.maximum / 3 then Word64.maximum else framePeriodNs * 3
  let resolvedEncoderDelay := (encoderDelayNs.map UInt64.toNat).getD defaultEncoderDelay
  let resolvedSenderReportsDelay :=
    (senderReportsDelayNs.map UInt64.toNat).getD resolvedEncoderDelay
  let _ ← makeIpmxFrameSchedule 1 resolvedEncoderDelay resolvedSenderReportsDelay
    accessUnitOffsetNs.toNat
  return ⟨resolvedEncoderDelay, resolvedSenderReportsDelay, accessUnitOffsetNs.toNat⟩

/-! ## The transmitter -/

structure FrameTransmitterSettings where
  mediaPort : UInt16
  ssrc : UInt32
  tsRefclk : Bytes
  mediaClock : Bytes := ascii "direct=0"
  cname : Bytes
  blockVersion : UInt8 := 1
  video : IpmxVideoMediaInfo
  h264 : IpmxH264MediaInfo
  encoderDelayNs : Option UInt64
  senderReportsDelayNs : Option UInt64
  accessUnitOffsetNs : UInt64 := 1000000
  maximumQueuedFrames : Nat := 8
  latePacketThresholdNs : UInt64 := 1000000
  dscp : UInt8 := 36
deriving DecidableEq, Repr

/-- The constructor of `FrameTransmitter`, with the two clock readings its worker makes before
the first frame. -/
def makeFrameTransmitter (settings : FrameTransmitterSettings)
    (wallReferenceNs qpcReferenceNs : Nat) : Except String FrameTransmitter := do
  rejectIf (settings.maximumQueuedFrames = 0) "transmit queue must contain at least one frame"
  rejectIf (settings.latePacketThresholdNs = 0 ∨ settings.dscp > 63)
    "invalid transmitter instrumentation settings"
  validateIpmxMediaPort settings.mediaPort
  rejectIf (settings.video.fpsNumerator = 0 ∨ settings.video.fpsDenominator = 0)
    "transmitter needs a valid frame rate"
  let timing ← resolveIpmxSessionTiming settings.video.fpsNumerator settings.video.fpsDenominator
    settings.encoderDelayNs settings.senderReportsDelayNs settings.accessUnitOffsetNs
  return {
    ssrc := settings.ssrc
    tsRefclk := settings.tsRefclk
    mediaClock := settings.mediaClock
    cname := settings.cname
    blockVersion := settings.blockVersion
    video := settings.video
    h264 := settings.h264
    timing, wallReferenceNs, qpcReferenceNs }

/-! ## The session -/

structure Session where
  group : Bytes
  port : UInt16 := 5004
  width : UInt32 := 1280
  height : UInt32 := 720
  fpsNumerator : UInt32 := 60
  fpsDenominator : UInt32 := 1
  bitrateKbps : UInt32 := 4000
  maximumIpBitrateKbps : UInt32
  maximumUdpBytes : UInt16 := 1200
  tsRefclk : Bytes
  sourceAddress : Bytes
  ssrc : UInt32
  encoderDelayNs : Option UInt64 := none
  senderReportsDelayNs : Option UInt64 := none
  accessUnitOffsetNs : Option UInt64 := none
  latePacketThresholdNs : UInt64 := 1000000
  dscp : UInt8 := 36
deriving DecidableEq, Repr

namespace Session

variable (session : Session)

/-- `sdp_settings` of `main`. -/
def sdpSettings : SdpSettings where
  multicastGroup := session.group
  port := session.port
  payloadType := kH264PayloadType
  width := session.width
  height := session.height
  fpsNumerator := session.fpsNumerator
  fpsDenominator := session.fpsDenominator
  targetBitrateKbps := session.bitrateKbps
  maximumIpBitrateKbps := session.maximumIpBitrateKbps
  maximumUdpBytes := session.maximumUdpBytes
  tsRefclk := session.tsRefclk
  mediaClock := ascii "direct=0"
  sourceAddress := session.sourceAddress

/-- The video info of the transmitter: four fields are set, the others are defaults. -/
def video : IpmxVideoMediaInfo where
  width := session.width
  height := session.height
  fpsNumerator := session.fpsNumerator
  fpsDenominator := session.fpsDenominator

/-- `transmitter_settings` of `main`. -/
def transmitterSettings (h264 : IpmxH264MediaInfo) : FrameTransmitterSettings where
  mediaPort := session.port
  ssrc := session.ssrc
  tsRefclk := session.tsRefclk
  cname := session.tsRefclk ++ ascii "@ipmx-windows"
  video := session.video
  h264 := h264
  encoderDelayNs := session.encoderDelayNs
  senderReportsDelayNs := session.senderReportsDelayNs
  accessUnitOffsetNs := session.accessUnitOffsetNs.getD 1000000
  latePacketThresholdNs := session.latePacketThresholdNs
  dscp := session.dscp

/-- What `main` does up to the first frame: the text of the SDP and the transmitter. -/
def start (sps pps : NalUnit) (wallReferenceNs qpcReferenceNs : Nat) :
    Except String (Bytes × FrameTransmitter) := do
  let text ← makeSdp session.sdpSettings sps pps
  let h264 ← makeIpmxH264MediaInfo sps pps
  let transmitter ← makeFrameTransmitter (session.transmitterSettings h264) wallReferenceNs
    qpcReferenceNs
  return (text, transmitter)

end Session
end Ipmx.Sender
