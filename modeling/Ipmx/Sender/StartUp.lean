/-
Ipmx.Sender.StartUp — `main` of the sender from its arguments to its first
frame.

What the system answers on the way is an `Answers`: the addresses, the monitor,
x264, the random numbers, which files can be written, and the two clock
readings the worker makes first. The options and the parameter sets are checked
again by `make_sdp` and by the constructor of the transmitter.
-/
import Ipmx.Host.Addresses
import Ipmx.Sender.Options
import Ipmx.Sender.Session
import Ipmx.Sender.X264Encoder
import Ipmx.Rtp.Packetizer

namespace Ipmx.Sender

open H264 Host
open Ipmx.Lib
open Rtcp Rtp Sdp

/-- What the system answers while the sender starts. `monitor` is the size of the capture item, or
the text of what has failed. -/
structure Answers where
  windows : Windows
  monitor : Except Bytes (UInt32 × UInt32)
  x264 : X264Opening
  ssrc : UInt32
  sequence : UInt16
  initialTimestamp : UInt32
  creatable : Bytes → Bool
  sdpWritten : Bool := true
  wallReferenceNs : Nat
  qpcReferenceNs : Nat

/-- What `main` has when it enters its loop. -/
structure Launch where
  options : Options
  encoder : X264Encoder
  packetizer : RtpPacketizer
  session : Session
  description : Bytes
  transmitter : FrameTransmitter
  initialTimestamp : UInt32

namespace StartUp

/-- The constructor of `PrimaryMonitorSource`, for the size of its pictures. -/
def monitorSize (monitor : Except Bytes (UInt32 × UInt32)) (o : Options) :
    Except Stop (UInt32 × UInt32) := do
  rejectIf (o.fpsNumerator = 0 ∨ o.fpsDenominator = 0) (.text "invalid WGC frame rate")
  let (width, height) ← monitor.mapError .thrown
  let width := width &&& ~~~1
  let height := height &&& ~~~1
  rejectIf (width = 0 ∨ height = 0) (.text "primary monitor has invalid capture dimensions")
  return (width, height)

/-- The constructor of `TestPatternSource`, for the size of its pictures. -/
def patternSize (o : Options) : Except Stop (UInt32 × UInt32) := do
  rejectIf (o.width = 0 ∨ o.height = 0 ∨ o.width &&& 1 ≠ 0 ∨ o.height &&& 1 ≠ 0
    ∨ o.fpsNumerator = 0 ∨ o.fpsDenominator = 0)
    (.text "test source needs even dimensions and a valid frame rate")
  return (o.width, o.height)

def sourceSize (monitor : Except Bytes (UInt32 × UInt32)) (o : Options) :
    Except Stop (UInt32 × UInt32) :=
  if o.source = ascii "screen" then monitorSize monitor o else patternSize o

/-- `encoder_settings` of `main`. -/
def encoderSettings (o : Options) (size : UInt32 × UInt32) : EncoderSettings where
  width := size.1
  height := size.2
  fpsNumerator := o.fpsNumerator
  fpsDenominator := o.fpsDenominator

def openPacketizer (answers : Answers) (o : Options) : Except Stop RtpPacketizer :=
  match RtpPacketizer.new? o.maximumUdpBytes.toNat kH264PayloadType answers.ssrc
    answers.sequence with
  | some packetizer => .ok packetizer
  | none => .error (.text "invalid RTP packetizer configuration")

/-- The clock reference that is given, or that of the adapter with the source address. -/
def clockReference (windows : Windows) (o : Options) (sourceAddress : Bytes) :
    Except Stop Bytes :=
  if o.tsRefclk = [] then windows.localMacReference sourceAddress else .ok o.tsRefclk

/-- What `main` has in hand before it makes the description. -/
def session (o : Options) (size : UInt32 × UInt32) (sourceAddress tsRefclk : Bytes)
    (ssrc : UInt32) : Session where
  group := o.group
  port := o.port
  width := size.1
  height := size.2
  fpsNumerator := o.fpsNumerator
  fpsDenominator := o.fpsDenominator
  bitrateKbps := o.bitrateKbps
  maximumIpBitrateKbps := o.maximumIpBitrateKbps
  maximumUdpBytes := o.maximumUdpBytes
  tsRefclk := tsRefclk
  sourceAddress := sourceAddress
  ssrc := ssrc
  encoderDelayNs := o.encoderDelayNs
  senderReportsDelayNs := o.senderReportsDelayNs
  accessUnitOffsetNs := o.accessUnitOffsetNs
  latePacketThresholdNs := o.latePacketThresholdNs
  dscp := o.dscp

/-- From the session on: the description, the dump file, the transmitter, the production file. -/
def openSession (answers : Answers) (o : Options) (encoder : X264Encoder)
    (packetizer : RtpPacketizer) (session : Session) : Except Stop Launch := do
  rejectIf (¬ answers.creatable o.sdp) (.text "cannot create SDP file")
  let description ← thrown (makeSdp session.sdpSettings encoder.sps encoder.pps)
  rejectIf (¬ answers.sdpWritten) (.text "cannot write SDP file")
  rejectIf (o.dumpH264 ≠ [] ∧ ¬ answers.creatable o.dumpH264)
    (.text "cannot create H.264 dump file")
  let h264 ← thrown (makeIpmxH264MediaInfo encoder.sps encoder.pps)
  let transmitter ← thrown (makeFrameTransmitter (session.transmitterSettings h264)
    answers.wallReferenceNs answers.qpcReferenceNs)
  rejectIf (o.productionCsv ≠ [] ∧ ¬ answers.creatable o.productionCsv)
    (.text "cannot open production CSV")
  return {
    options := o
    encoder, packetizer, session, description, transmitter
    initialTimestamp := answers.initialTimestamp }

end StartUp

/-- `main` up to its loop. -/
def startUp (answers : Answers) (args : List Bytes) : Except Stop Launch := do
  let (o, _) ← Options.parseOptions args
  let size ← StartUp.sourceSize answers.monitor o
  let encoder ← thrown (X264Encoder.new? (StartUp.encoderSettings o size) answers.x264)
  let packetizer ← StartUp.openPacketizer answers o
  let sourceAddress ← answers.windows.resolveIpv4SourceAddress o.group o.port o.interfaceAddress
  let tsRefclk ← StartUp.clockReference answers.windows o sourceAddress
  StartUp.openSession answers o encoder packetizer
    (StartUp.session o size sourceAddress tsRefclk packetizer.ssrc)

end Ipmx.Sender
