/-
Ipmx.Receiver.MfH264Decoder — `mf_h264_decoder.cpp`.

The decoder itself is a Media Foundation transform. What it answers to the calls
of one `decode` is an argument of that call: whether it takes the input, the
outputs that `ProcessOutput` returns until it needs more input, and the output
types it offers when the stream changes. The bookkeeping around it is the
program's own: the output format, the capture time that belongs to each sample
time, and the copy out of the decoder's padded buffer. Creating samples and
buffers, which fails only without memory, is left out. A sample time is a signed
64-bit count of 100 ns; a product that does not fit wraps.
-/
import Ipmx.H264.Nal
import Ipmx.Lib.Check
import Ipmx.Lib.OrderedMap
import Ipmx.Lib.Painting
import Ipmx.Lib.Word64

namespace Ipmx.Receiver

open H264
open Ipmx.Lib

structure DecodedFrame where
  width : UInt32
  height : UInt32
  yStride : UInt32
  uvStride : UInt32
  captureTimeNs : UInt64
  pixels : Bytes
deriving DecidableEq, Repr

/-- An exception, or an access outside of a buffer, which is undefined in the source. -/
inductive DecoderFault where
  | invalidArgument (what : String)
  | runtimeError (what : String)
  | outOfRange
deriving DecidableEq, Repr

/-- What `check` throws for a failed `HRESULT`. -/
def hresultFailed (operation : String) (result : UInt32) : DecoderFault :=
  .runtimeError (operation ++ " failed, HRESULT=" ++ toString result.toNat)

/-- `check`: an `HRESULT` has failed if its sign bit is set. -/
def check (result : UInt32) (operation : String) : Except DecoderFault Unit :=
  rejectIf (result ≥ 0x80000000) (hresultFailed operation result)

/-! ## Answers of the transform -/

/-- A type of `GetOutputAvailableType`. An `MF_MT_DEFAULT_STRIDE` that is not set is `none`. -/
inductive OutputType where
  | unavailable (result : UInt32)
  | other
  | refused (result : UInt32)
  | sizeless (result : UInt32)
  | nv12 (frameWidth frameHeight : UInt32) (defaultStride : Option UInt32)
deriving DecidableEq, Repr

/-- A decoded sample: its time, if it has one, and the bytes of its buffer. -/
structure OutputSample where
  sampleTime : Option Int
  bytes : Bytes
deriving DecidableEq, Repr

/-- A return of `ProcessOutput` other than `MF_E_TRANSFORM_NEED_MORE_INPUT`, or the failure of the
`GetOutputStreamInfo` in front of it. -/
inductive OutputAnswer where
  | infoFailed (result : UInt32)
  | produced (sample : Option OutputSample)
  | streamChange (types : List OutputType)
  | failed (result : UInt32)
deriving DecidableEq, Repr

/-- A return of `ProcessInput`. -/
inductive InputAnswer where
  | accepted
  | notAccepting
  | failed (result : UInt32)
deriving DecidableEq, Repr

/-- What the transform answers to one `decode`. The outputs in front of the second attempt are
those of a transform that does not accept the first. -/
structure DecodeAnswers where
  input : InputAnswer := .accepted
  outputsBefore : List OutputAnswer := []
  secondInput : InputAnswer := .accepted
  outputs : List OutputAnswer := []
deriving DecidableEq, Repr

/-! ## The state -/

/-- The decoder with a configured output that holds the visible frame. -/
structure MfH264Decoder where
  width : UInt32
  height : UInt32
  fpsNumerator : UInt32
  fpsDenominator : UInt32
  outputStride : UInt32
  outputHeight : UInt32
  sampleIndex : Nat := 0
  captureTimes : OrderedMap Int UInt64 := .empty
  width_le : width ≤ outputStride
  height_le : height ≤ outputHeight
deriving DecidableEq

@[irreducible] def maximumPendingCaptureTimes : Nat := 512

/-- `MF_E_NOTACCEPTING`. -/
def kNotAccepting : UInt32 := 0xC00D36B5

namespace MfH264Decoder

theorem le_largerStride {width frameWidth stride : UInt32} (h : width ≤ frameWidth) :
    width ≤ if frameWidth < stride then stride else frameWidth := by
  split
  · next hlarger => exact UInt32.le_trans h (UInt32.le_of_lt hlarger)
  · exact h

/-- The output stride and height of `configure_output`, which takes the first NV12 type. -/
def configureOutput (width height : UInt32) :
    List OutputType → Except DecoderFault
      { format : UInt32 × UInt32 // width ≤ format.1 ∧ height ≤ format.2 }
  | [] => .error (.runtimeError "Media Foundation H.264 decoder has no NV12 output type")
  | .unavailable result :: _ => .error (hresultFailed "GetOutputAvailableType" result)
  | .other :: types => configureOutput width height types
  | .refused result :: _ => .error (hresultFailed "SetOutputType NV12" result)
  | .sizeless result :: _ => .error (hresultFailed "Get output frame size" result)
  | .nv12 frameWidth frameHeight defaultStride :: _ =>
    if h : frameWidth < width ∨ frameHeight < height then
      .error (.runtimeError "H.264 decoder output is smaller than the visible frame")
    else
      let stride := defaultStride.getD width
      .ok ⟨(if frameWidth < stride then stride else frameWidth, frameHeight),
        le_largerStride (UInt32.not_lt.mp fun hlt => h (.inl hlt)),
        UInt32.not_lt.mp fun hlt => h (.inr hlt)⟩

/-- The constructor, with the output types the transform offers it. -/
def new? (width height fpsNumerator fpsDenominator : UInt32) (types : List OutputType) :
    Except DecoderFault MfH264Decoder := do
  rejectIf (width = 0 ∨ height = 0 ∨ fpsNumerator = 0 ∨ fpsDenominator = 0)
    (.invalidArgument "invalid decoder configuration")
  let format ← configureOutput width height types
  return {
    width, height, fpsNumerator, fpsDenominator
    outputStride := format.val.1
    outputHeight := format.val.2
    width_le := format.property.1
    height_le := format.property.2 }

/-! ## `copy_nv12` -/

/-- `std::memcpy` between offsets of two buffers. -/
def copyBytes (source : Bytes) (sourceOffset destinationOffset count : Nat)
    (destination : Bytes) : Except DecoderFault Bytes :=
  (List.range count).foldlM (fun destination i => do
    let byte ← readCell .outOfRange source (sourceOffset + i)
    writeCell .outOfRange (destinationOffset + i) byte destination) destination

/-- The loop over the rows of a plane. -/
def copyRows (source : Bytes) (sourcePlane sourceStride destinationPlane width rows : Nat)
    (destination : Bytes) : Except DecoderFault Bytes :=
  (List.range rows).foldlM (fun destination row =>
    copyBytes source (sourcePlane + row * sourceStride) (destinationPlane + row * width) width
      destination) destination

/-- `copy_nv12`: the visible part of the decoder's buffer. -/
def copyNv12 (bytes : Bytes) (width height sourceStride sourceHeight : UInt32)
    (captureTimeNs : UInt64) : Except DecoderFault DecodedFrame := do
  let expected := Word64.wrap (sourceStride.toNat * sourceHeight.toNat * 3) / 2
  rejectIf (bytes.length < expected)
    (.runtimeError "decoded NV12 buffer is smaller than the configured frame")
  let size := Word64.wrap (width.toNat * height.toNat * 3) / 2
  let pixels ← copyRows bytes 0 sourceStride.toNat 0 width.toNat height.toNat
    (List.replicate size 0)
  let pixels ← copyRows bytes (sourceStride.toNat * sourceHeight.toNat) sourceStride.toNat
    (width.toNat * height.toNat) width.toNat (height.toNat / 2) pixels
  return { width, height, yStride := width, uvStride := width, captureTimeNs, pixels }

/-! ## `capture_time_for_output` -/

/-- The capture time of an output, and the capture times that are kept. -/
def captureTimeForOutput (captureTimes : OrderedMap Int UInt64) (sampleTime : Option Int) :
    UInt64 × OrderedMap Int UInt64 :=
  match sampleTime with
  | some sampleTime =>
    ((captureTimes.find? sampleTime).getD 0, captureTimes.eraseUpTo sampleTime)
  | none =>
    match captureTimes.first? with
    | some captureTime => (captureTime, captureTimes.eraseFirst)
    | none => (0, captureTimes)

/-! ## `drain` and `decode` -/

variable (d : MfH264Decoder)

def reconfigure (types : List OutputType) : Except DecoderFault MfH264Decoder := do
  let format ← configureOutput d.width d.height types
  return { d with
    outputStride := format.val.1
    outputHeight := format.val.2
    width_le := format.property.1
    height_le := format.property.2 }

/-- One sample that `ProcessOutput` produced. -/
def output (sample : OutputSample) : Except DecoderFault (DecodedFrame × MfH264Decoder) := do
  let (captureTimeNs, captureTimes) := captureTimeForOutput d.captureTimes sample.sampleTime
  let frame ← copyNv12 sample.bytes d.width d.height d.outputStride d.outputHeight captureTimeNs
  return (frame, { d with captureTimes })

/-- `drain`, up to the answer that more input is needed. -/
def drain (d : MfH264Decoder) :
    List OutputAnswer → Except DecoderFault (List DecodedFrame × MfH264Decoder)
  | [] => .ok ([], d)
  | .infoFailed result :: _ => .error (hresultFailed "GetOutputStreamInfo" result)
  | .failed result :: _ => .error (hresultFailed "H.264 ProcessOutput" result)
  | .produced none :: _ => .error (.runtimeError "H.264 decoder returned no output sample")
  | .streamChange types :: answers => do
    let d ← d.reconfigure types
    d.drain answers
  | .produced (some sample) :: answers => do
    let (frame, d) ← d.output sample
    let (frames, d) ← d.drain answers
    return (frame :: frames, d)

/-- The check on the result of `ProcessInput`. -/
def checkInput : InputAnswer → Except DecoderFault Unit
  | .accepted => .ok ()
  | .notAccepting => .error (hresultFailed "H.264 ProcessInput" kNotAccepting)
  | .failed result => .error (hresultFailed "H.264 ProcessInput" result)

def sampleDuration : Int := 10000000 * d.fpsDenominator.toNat / d.fpsNumerator.toNat

/-- The time of the next sample, a `LONGLONG`. -/
def sampleTime : Int := (d.sampleIndex * d.sampleDuration).bmod Word64.size

/-- What `decode` notes about an input that was taken. -/
def noteInput (captureTimeNs : UInt64) : MfH264Decoder :=
  { d with
    captureTimes :=
      (d.captureTimes.assign d.sampleTime captureTimeNs).keepLast maximumPendingCaptureTimes
    sampleIndex := d.sampleIndex + 1 }

/-- The outputs taken in front of the second attempt, and the answer `decode` goes on with. -/
def offerInput (answers : DecodeAnswers) :
    Except DecoderFault ((List DecodedFrame × MfH264Decoder) × InputAnswer) :=
  if answers.input = .notAccepting then do
    let drained ← d.drain answers.outputsBefore
    return (drained, answers.secondInput)
  else
    .ok (([], d), answers.input)

/-- The access units `decode` does not look at. -/
def Undecodable (annexB : Bytes) : Prop := annexB = [] ∨ annexB.length > 4294967295

instance (annexB : Bytes) : Decidable (Undecodable annexB) := inferInstanceAs (Decidable (_ ∨ _))

def decode (annexB : Bytes) (captureTimeNs : UInt64) (answers : DecodeAnswers) :
    Except DecoderFault (List DecodedFrame × MfH264Decoder) :=
  if Undecodable annexB then
    .ok ([], d)
  else do
    let ((frames, d), input) ← d.offerInput answers
    checkInput input
    let (more, d) ← (d.noteInput captureTimeNs).drain answers.outputs
    return (frames ++ more, d)

/-! ## Runs -/

/-- A call of `decode`, with what the transform answers to it. -/
structure Call where
  annexB : Bytes
  captureTimeNs : UInt64
  answers : DecodeAnswers := {}
deriving DecidableEq, Repr

/-- The frames of a run of calls. -/
def decodeAll (d : MfH264Decoder) :
    List Call → Except DecoderFault (List DecodedFrame × MfH264Decoder)
  | [] => .ok ([], d)
  | call :: calls => do
    let (frames, d) ← d.decode call.annexB call.captureTimeNs call.answers
    let (more, d) ← d.decodeAll calls
    return (frames ++ more, d)

end MfH264Decoder
end Ipmx.Receiver
