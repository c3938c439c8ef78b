/-
Ipmx.Sender.Production — the loop of the sender's `main`.

A round is a call of the source with the frame it fills in, or none, and what
x264 and the clock answer behind it: the frame is converted unless it repeats
the one before, encoded, packetized and handed to the transmitter. A throw ends
the loop. What `enqueue` does with a frame is `Ipmx.Sender.TransmitQueue`; here
the frames handed over are a list. The CSV file and the reports are left out.
-/
import Ipmx.Lib.Trace
import Ipmx.Rtp.Packetizer
import Ipmx.Sender.FrameTransmitter
import Ipmx.Sender.X264Encoder

namespace Ipmx.Sender

open H264 Rtp
open Ipmx.Lib
open Timing (rtpTimestampForFrame)
open Video (ConversionFault Nv12Frame bgraToNv12)

/-- A `BgraFrame` as a source fills it in. -/
structure SourceFrame where
  picture : Video.BgraFrame
  frameIndex : Nat
  nominalTimeNs : Nat
  skippedIntervals : Nat
  repeated : Bool
deriving DecidableEq, Repr

/-- The options and constants of the loop. -/
structure ProductionOptions where
  screen : Bool := false
  dumpH264 : Bool := false
  fpsNumerator : Nat
  fpsDenominator : Nat
  initialTimestamp : UInt32
  encoderDelayNs : Nat
deriving DecidableEq, Repr

/-- What happens in one round. -/
structure ProductionRound where
  frame : Option SourceFrame
  output : X264Output
  encodeEndNs : Nat
deriving DecidableEq, Repr

inductive ProductionFault where
  | conversion (fault : ConversionFault)
  | encoder (what : String)
  | frameRate
deriving DecidableEq, Repr

/-- The variables of the loop. `bitstream` is the dump file, `enqueued` what the transmitter was
given; the last two are records of the run, what x264 was given and what it made of it. -/
structure Production where
  encoder : X264Encoder
  packetizer : RtpPacketizer
  frameIndex : Nat := 0
  skippedIntervals : Nat := 0
  encodeDeadlineMisses : Nat := 0
  cachedNv12 : Option Nv12Frame := none
  bitstream : Bytes := []
  enqueued : List TransmitFrame := []
  inputs : List X264Input := []
  units : List EncodedAccessUnit := []

namespace Production

/-- `static_cast<int64_t>` of a 64-bit value. -/
@[irreducible] def signed64 (value : Nat) : Int := Int.bmod value Word64.size

/-- The index the timeline gives a frame: that of the pattern, or the count of the loop. -/
def mediaIndex (o : ProductionOptions) (s : Production) (frame : SourceFrame) : Nat :=
  if o.screen then s.frameIndex else frame.frameIndex

/-- The nominal time of a frame, which one of the screen does not have. -/
def nominal (frame : SourceFrame) : Nat :=
  if frame.nominalTimeNs ≠ 0 then frame.nominalTimeNs else frame.picture.captureTimeNs.toNat

/-- The picture of a frame. One that repeats the last frame is not converted again, and before
the first frame there is none to repeat. -/
def convert (s : Production) (frame : SourceFrame) :
    Except ProductionFault (Option Nv12Frame) :=
  let converted : Except ProductionFault (Option Nv12Frame) :=
    if frame.repeated then .ok s.cachedNv12
    else (some <$> bgraToNv12 frame.picture (s.cachedNv12.getD {})).mapError .conversion
  Option.map (fun nv12 => { nv12 with captureTimeNs := frame.picture.captureTimeNs }) <$> converted

/-- From the picture on: encode, dump, packetize, enqueue. -/
def send (o : ProductionOptions) (s : Production) (frame : SourceFrame) (nv12 : Nv12Frame)
    (output : X264Output) (encodeEndNs : Nat) : Except ProductionFault Production := do
  let index := s.mediaIndex o frame
  let (unit, encoder) ← (s.encoder.encode nv12 (signed64 index) output).mapError .encoder
  let missed := encodeEndNs > Word64.wrap (nominal frame + o.encoderDelayNs)
  let bitstream :=
    if o.dumpH264 ∧ unit.nals ≠ [] then s.bitstream ++ buildAnnexB unit.nals else s.bitstream
  match rtpTimestampForFrame o.initialTimestamp index o.fpsNumerator o.fpsDenominator with
  | none => throw .frameRate
  | some timestamp =>
    let (packets, packetizer) := s.packetizer.packetize unit.nals timestamp nv12.captureTimeNs
    return { s with
      encoder, packetizer, bitstream
      frameIndex := Word64.wrap (s.frameIndex + 1)
      encodeDeadlineMisses := s.encodeDeadlineMisses + if missed then 1 else 0
      cachedNv12 := some nv12
      enqueued := s.enqueued ++ [⟨timestamp, nv12.captureTimeNs.toNat, packets, nominal frame⟩]
      inputs := s.inputs ++ [s.encoder.input nv12 (signed64 index)]
      units := s.units ++ [unit] }

/-- One round of the loop. -/
def round (o : ProductionOptions) (s : Production) (r : ProductionRound) :
    Except ProductionFault Production :=
  match r.frame with
  | none => .ok s
  | some frame => do
    let s := { s with
      skippedIntervals := Word64.wrap (s.skippedIntervals + frame.skippedIntervals) }
    match ← s.convert frame with
    | none => return s
    | some nv12 => s.send o frame nv12 r.output r.encodeEndNs

/-- A round that is not left by a throw. -/
def step (o : ProductionOptions) (s : Production) (r : ProductionRound) : Option Production :=
  (s.round o r).toOption

/-- The loop when `main` enters it. -/
def initial (encoder : X264Encoder) (packetizer : RtpPacketizer) : Production :=
  { encoder, packetizer }

end Production
end Ipmx.Sender
