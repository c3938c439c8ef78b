/-
Ipmx.Receiver.Playback — the loop of the receiver's `main`.

A round is what `network.receive` returns or throws, with what the decoder's
transform, the clock and the display answer in it. The access unit a datagram
completes is decoded once the stream is synchronized, and the frames that are not
late are presented. A throw ends the loop. The Direct3D calls of `present` that
cannot fail only read the frame and are left out, and so is the report printed
every second.
-/
import Ipmx.H264.AccessUnit
import Ipmx.Lib.Trace
import Ipmx.Receiver.MfH264Decoder
import Ipmx.Receiver.ReceiveLoop
import Ipmx.Timing.LatencyMetrics

namespace Ipmx.Receiver

open H264 Rtp Timing
open Ipmx.Lib

/-! ## The state of the loop -/

/-- The options the loop reads. -/
structure PlaybackOptions where
  width : UInt32
  height : UInt32
  localClock : Bool := false
  maximumLatencyMs : UInt32 := 250
deriving DecidableEq, Repr

def PlaybackOptions.maximumLatencyNs (o : PlaybackOptions) : UInt64 :=
  o.maximumLatencyMs.toUInt64 * 1000000

/-- A call of the network that has failed, with the text the system has for it. -/
inductive NetworkFailure where
  | select (reason : String)
  | recvfrom (reason : String)
deriving DecidableEq, Repr

/-- What `throw_winsock` throws. -/
def NetworkFailure.fault : NetworkFailure → DecoderFault
  | .select reason => .runtimeError ("select failed: " ++ reason)
  | .recvfrom reason => .runtimeError ("recvfrom failed: " ++ reason)

/-- What a frame is answered: the clock when it is ready and when it has been presented, and the
results of `VideoProcessorBlt` and `Present`. -/
structure FrameAnswers where
  readyNs : UInt64 := 0
  presentedNs : UInt64 := 0
  blt : UInt32 := 0
  present : UInt32 := 0
deriving DecidableEq, Repr

/-- What happens in one round. -/
structure Round where
  received : Except NetworkFailure (Option Bytes)
  answers : DecodeAnswers := {}
  frameAnswers : Nat → FrameAnswers := fun _ => {}

def Round.datagram (r : Round) : Option Bytes :=
  match r.received with
  | .error _ => none
  | .ok datagram => datagram

/-- The variables of the loop. The last four are records of the run: the access units returned
and those given to the decoder, the frames it returned and those presented. -/
structure Playback where
  loop : ReceiveLoop := {}
  decoder : MfH264Decoder
  synchronized : Bool := false
  decodedFrames : Nat := 0
  lateFrames : Nat := 0
  latency : LatencyMetrics := {}
  returned : List CompletedAccessUnit := []
  fed : List MfH264Decoder.Call := []
  frames : List DecodedFrame := []
  presented : List (DecodedFrame × FrameAnswers) := []

namespace Playback

/-! ## Frames -/

/-- The check of `D3d11Renderer::present`. -/
def checkPresentable (o : PlaybackOptions) (frame : DecodedFrame) : Except DecoderFault Unit :=
  rejectIf (frame.width ≠ o.width ∨ frame.height ≠ o.height
    ∨ frame.pixels.length < Word64.wrap (frame.width.toNat * frame.height.toNat * 3) / 2)
    (.invalidArgument "renderer received an invalid NV12 frame")

/-- `D3d11Renderer::present`. -/
def present (o : PlaybackOptions) (frame : DecodedFrame) (answers : FrameAnswers) :
    Except DecoderFault Unit := do
  checkPresentable o frame
  check answers.blt "VideoProcessorBlt"
  check answers.present "Present"

/-- A frame is late with the local clock, if its capture time is known. -/
def Late (o : PlaybackOptions) (frame : DecodedFrame) (answers : FrameAnswers) : Prop :=
  o.localClock = true ∧ frame.captureTimeNs ≠ 0 ∧ answers.readyNs ≥ frame.captureTimeNs
    ∧ answers.readyNs - frame.captureTimeNs > o.maximumLatencyNs

instance (o : PlaybackOptions) (frame : DecodedFrame) (answers : FrameAnswers) :
    Decidable (Late o frame answers) :=
  inferInstanceAs (Decidable (_ ∧ _ ∧ _ ∧ _))

/-- The latency that is observed when a frame has been presented. -/
def presentedLatency (o : PlaybackOptions) (frame : DecodedFrame) (answers : FrameAnswers) :
    List UInt64 :=
  if o.localClock ∧ frame.captureTimeNs ≠ 0 ∧ answers.presentedNs ≥ frame.captureTimeNs then
    [answers.presentedNs - frame.captureTimeNs]
  else
    []

/-- The body of the loop over the decoded frames. -/
def showFrame (o : PlaybackOptions) (s : Playback) (frame : DecodedFrame)
    (answers : FrameAnswers) : Except DecoderFault Playback :=
  if Late o frame answers then
    .ok { s with
      latency := s.latency.observeNs (answers.readyNs - frame.captureTimeNs)
      lateFrames := s.lateFrames + 1
      frames := s.frames ++ [frame] }
  else do
    present o frame answers
    return { s with
      latency := (presentedLatency o frame answers).foldl LatencyMetrics.observeNs s.latency
      decodedFrames := s.decodedFrames + 1
      frames := s.frames ++ [frame]
      presented := s.presented ++ [(frame, answers)] }

/-- The loop over the frames of one `decode`, with the answers to each. -/
def showFrames (o : PlaybackOptions) (s : Playback) :
    List (DecodedFrame × FrameAnswers) → Except DecoderFault Playback
  | [] => .ok s
  | (frame, answers) :: frames => do
    let s ← s.showFrame o frame answers
    s.showFrames o frames

/-! ## Rounds -/

/-- The frames of one `decode`, each with its answers. -/
def withAnswers (frameAnswers : Nat → FrameAnswers) (frames : List DecodedFrame) :
    List (DecodedFrame × FrameAnswers) :=
  frames.zipIdx.map fun (frame, index) => (frame, frameAnswers index)

/-- What is done with an access unit. -/
def playUnit (o : PlaybackOptions) (s : Playback) (unit : CompletedAccessUnit)
    (answers : DecodeAnswers) (frameAnswers : Nat → FrameAnswers) :
    Except DecoderFault Playback :=
  let s := { s with
    synchronized := s.synchronized || isRecoveryAccessUnit unit.annexB
    returned := s.returned ++ [unit] }
  if s.synchronized then do
    let (frames, decoder) ← s.decoder.decode unit.annexB unit.captureTimeNs answers
    showFrames o
      { s with decoder, fed := s.fed ++ [⟨unit.annexB, unit.captureTimeNs, answers⟩] }
      (withAnswers frameAnswers frames)
  else
    .ok s

/-- One round of the loop. -/
def round (o : PlaybackOptions) (s : Playback) (r : Round) : Except DecoderFault Playback :=
  match r.received with
  | .error failure => .error failure.fault
  | .ok none => .ok s
  | .ok (some datagram) =>
    let (result, loop) := s.loop.receive datagram
    let s := { s with loop }
    match result.join with
    | none => .ok s
    | some unit => s.playUnit o unit r.answers r.frameAnswers

/-- A round that is not left by a throw. -/
def step (o : PlaybackOptions) (s : Playback) (r : Round) : Option Playback :=
  (s.round o r).toOption

/-- The loop when `main` enters it. -/
def initial (decoder : MfH264Decoder) : Playback := { decoder }

/-- The verdict of a run. -/
def clean (o : PlaybackOptions) (s : Playback) : Bool :=
  o.localClock && s.loop.sequence.stats.lost = 0 && s.loop.sequence.stats.reordered = 0
    && s.loop.invalidPackets = 0 && s.lateFrames = 0 && s.decodedFrames > 0
    && s.latency.count > 0 && s.latency.maximumMs ≤ o.maximumLatencyMs.toFloat

end Playback
end Ipmx.Receiver
