/-
Ipmx.Sender.X264Encoder — the encoder of the sender (`x264_encoder.cpp`).

What the x264 library answers is an argument of each call, and what it is given
is an `X264Input`. The parameters it is opened with are left out: nothing of
them comes back to this code but through the headers. The counters are natural
numbers, since no run has `2 ^ 64` frames.
-/
import Ipmx.H264.AccessUnit
import Ipmx.Lib.Check
import Ipmx.Video.BgraToNv12

namespace Ipmx.Sender

open H264
open Ipmx.Lib
open Video

structure EncoderSettings where
  width : UInt32
  height : UInt32
  fpsNumerator : UInt32 := 60
  fpsDenominator : UInt32 := 1
deriving DecidableEq, Repr

/-- The format that is checked in the SPS. -/
def EncoderSettings.format (settings : EncoderSettings) : H264StreamFormat where
  width := settings.width
  height := settings.height
  fpsNumerator := settings.fpsNumerator
  fpsDenominator := settings.fpsDenominator

/-- What x264 answers while it is opened: which calls succeed, and the payloads of its headers. -/
structure X264Opening where
  presetKnown : Bool := true
  profileAvailable : Bool := true
  opened : Bool := true
  headers : Option (List Bytes)
deriving DecidableEq, Repr

/-- What of an `x264_picture_t` the encoder sets. -/
structure X264Input where
  frame : Nv12Frame
  pts : Int
  idr : Bool
deriving DecidableEq, Repr

/-- What `x264_encoder_encode` answers. -/
structure X264Output where
  succeeded : Bool := true
  pts : Int
  dts : Int
  keyframe : Bool
  payloads : List Bytes
deriving DecidableEq, Repr

structure EncodedAccessUnit where
  pts : Int
  dts : Int
  keyframe : Bool
  pictureTimingPresent : Bool
  recoveryPointComplete : Bool
  nals : List NalUnit
deriving DecidableEq, Repr

/-- The encoder. `warnings` are the lines it has written to `std::cerr`. -/
structure X264Encoder where
  settings : EncoderSettings
  sps : NalUnit
  pps : NalUnit
  missingPictureTimingCount : Nat := 0
  incompleteRecoveryPointCount : Nat := 0
  previousPts : Int := -1
  warnedPictureTiming : Bool := false
  warnedRecoveryPoint : Bool := false
  warnings : List String := []
deriving DecidableEq, Repr

/-- `collect_nals`. -/
def collectNals (payloads : List Bytes) : List NalUnit := payloads.flatMap parseAnnexB

namespace X264Encoder

/-! ## The constructor -/

/-- The last SPS and the last PPS among the headers; one that is missing is empty. -/
def pickHeaders (nals : List NalUnit) : NalUnit × NalUnit :=
  nals.foldl
    (fun (sps, pps) nal =>
      if nal ≠ [] ∧ nal.headD 0 &&& 0x1F = 7 then (nal, pps)
      else if nal ≠ [] ∧ nal.headD 0 &&& 0x1F = 8 then (sps, nal)
      else (sps, pps))
    ([], [])

/-- The constructor. -/
def new? (settings : EncoderSettings) (opening : X264Opening) : Except String X264Encoder := do
  rejectIf (settings.width = 0 ∨ settings.height = 0 ∨ settings.width &&& 1 ≠ 0
    ∨ settings.height &&& 1 ≠ 0 ∨ settings.fpsNumerator = 0 ∨ settings.fpsDenominator = 0)
    "invalid x264 encoder settings"
  rejectIf (¬ opening.presetKnown) "x264_param_default_preset failed"
  rejectIf (¬ opening.profileAvailable) "requested x264 Main/High 8-bit profile is unavailable"
  rejectIf (¬ opening.opened) "x264_encoder_open failed"
  match opening.headers with
  | none => throw "x264_encoder_headers failed"
  | some payloads =>
    let (sps, pps) := pickHeaders (collectNals payloads)
    rejectIf (sps = [] ∨ pps = []) "x264 did not provide SPS/PPS headers"
    match parseH264Sps sps, parseH264Pps pps with
    | some parsedSps, some _ =>
      let errors := validateIpmxVbrSenderSps parsedSps settings.format
      rejectIf (errors ≠ [])
        (errors.foldl (fun message error => message ++ "; " ++ error)
          "x264 SPS does not conform to the IPMX H.264 profile")
      return { settings, sps, pps }
    | _, _ => throw "x264 produced invalid SPS/PPS headers"

/-! ## Encoding -/

/-- What x264 is given for a frame: behind a gap in the time stamps, an IDR picture is forced. -/
def input (e : X264Encoder) (frame : Nv12Frame) (pts : Int) : X264Input where
  frame := frame
  pts := pts
  idr := decide (e.previousPts ≥ 0 ∧ pts ≠ e.previousPts + 1)

/-- The access unit of an answer. -/
def accessUnit (output : X264Output) : EncodedAccessUnit :=
  let nals := collectNals output.payloads
  { pts := output.pts
    dts := output.dts
    keyframe := output.keyframe
    pictureTimingPresent := hasSeiMessage nals kH264SeiPictureTiming
    recoveryPointComplete := !output.keyframe
      || (hasNalType nals kH264NalSps && hasNalType nals kH264NalPps && hasNalType nals kH264NalIdr
        && hasSeiMessage nals kH264SeiBufferingPeriod)
    nals }

/-- The check of the Picture Timing SEI. -/
def notePictureTiming (e : X264Encoder) (unit : EncodedAccessUnit) : X264Encoder :=
  if unit.nals ≠ [] ∧ ¬ unit.pictureTimingPresent then
    let e := { e with missingPictureTimingCount := e.missingPictureTimingCount + 1 }
    if e.warnedPictureTiming then e
    else
      { e with
        warnedPictureTiming := true
        warnings := e.warnings ++ ["warning: x264 access unit is missing Picture Timing SEI; "
          ++ "continuing and counting violations"] }
  else e

/-- The check of the recovery point. -/
def noteRecoveryPoint (e : X264Encoder) (unit : EncodedAccessUnit) : X264Encoder :=
  if ¬ unit.recoveryPointComplete then
    let e := { e with incompleteRecoveryPointCount := e.incompleteRecoveryPointCount + 1 }
    if e.warnedRecoveryPoint then e
    else
      { e with
        warnedRecoveryPoint := true
        warnings := e.warnings ++ ["warning: x264 recovery point is incomplete; "
          ++ "continuing and counting violations"] }
  else e

def encode (e : X264Encoder) (frame : Nv12Frame) (pts : Int) (output : X264Output) :
    Except String (EncodedAccessUnit × X264Encoder) := do
  rejectIf (frame.width ≠ e.settings.width ∨ frame.height ≠ e.settings.height)
    "NV12 frame dimensions changed during encoding"
  let e := { e with previousPts := pts }
  rejectIf (¬ output.succeeded) "x264_encoder_encode failed"
  let unit := accessUnit output
  return (unit, (e.notePictureTiming unit).noteRecoveryPoint unit)

end X264Encoder
end Ipmx.Sender
