/-
Ipmx.H264.ParameterSets — `parse_h264_sps`, `parse_h264_pps` and
`validate_ipmx_sps` of `h264.cpp`.

Every field of `H264SpsInfo` that the source fills is filled in the order it
is read in. Syntax elements that the source reads into `value` or `ignored`
are read and dropped.
-/
import Ipmx.H264.BitReader

namespace Ipmx.H264

def kH264NalSps : UInt8 := 7
def kH264NalPps : UInt8 := 8

structure H264HrdInfo where
  cpbCntMinus1 : UInt32 := 0
  cbrFlag : Bool := false
deriving DecidableEq, Repr

structure H264SpsInfo where
  profileIdc : UInt8 := 0
  levelIdc : UInt8 := 0
  spsId : UInt32 := 0
  chromaFormatIdc : UInt32 := 1
  bitDepthLuma : UInt32 := 8
  bitDepthChroma : UInt32 := 8
  width : UInt32 := 0
  height : UInt32 := 0
  frameMbsOnlyFlag : Bool := false
  vuiParametersPresentFlag : Bool := false
  videoSignalTypePresentFlag : Bool := false
  videoFullRangeFlag : Bool := false
  colourDescriptionPresentFlag : Bool := false
  colourPrimaries : UInt8 := 2
  transferCharacteristics : UInt8 := 2
  matrixCoefficients : UInt8 := 2
  timingInfoPresentFlag : Bool := false
  numUnitsInTick : UInt32 := 0
  timeScale : UInt32 := 0
  fixedFrameRateFlag : Bool := false
  nalHrdParametersPresentFlag : Bool := false
  nalHrd : Option H264HrdInfo := none
  picStructPresentFlag : Bool := false
  bitstreamRestrictionFlag : Bool := false
  maxNumReorderFrames : Option UInt32 := none
deriving DecidableEq, Repr

structure H264PpsInfo where
  ppsId : UInt32 := 0
  spsId : UInt32 := 0
deriving DecidableEq, Repr

structure H264StreamFormat where
  width : UInt32
  height : UInt32
  fpsNumerator : UInt32
  fpsDenominator : UInt32
deriving DecidableEq, Repr

/-! ## `parse_hrd` and `parse_vui` -/

/-- The bit rate, the CPB size and the `cbr_flag` of one CPB. -/
def readCpb : BitReader Bool := do
  let _ ← readUe
  let _ ← readUe
  readBit

/-- The loop over the CPBs behind the first. -/
def skipCpbs : Nat → BitReader Unit
  | 0 => pure ()
  | count + 1 => do
    let _ ← readCpb
    skipCpbs count

def parseHrd : BitReader H264HrdInfo := do
  let cpbCntMinus1 ← readUe
  guard (cpbCntMinus1 ≤ 31)
  let _ ← readBits 4
  let _ ← readBits 4
  let cbrFlag ← readCpb
  skipCpbs cpbCntMinus1.toNat
  let _ ← readBits 5
  let _ ← readBits 5
  let _ ← readBits 5
  let _ ← readBits 5
  return { cpbCntMinus1, cbrFlag }

/-- The aspect ratio, behind its present flag. -/
def skipAspectRatio : BitReader Unit := do
  let present ← readBit
  if present then
    let value ← readBits 8
    if value = 255 then
      let _ ← readBits 16
      let _ ← readBits 16
      pure ()
    else
      pure ()
  else
    pure ()

/-- The overscan flag, behind its present flag. -/
def skipOverscan : BitReader Unit := do
  let present ← readBit
  if present then
    let _ ← readBit
    pure ()
  else
    pure ()

def parseColourDescription (sps : H264SpsInfo) : BitReader H264SpsInfo := do
  let colourPrimaries ← readBits 8
  let transferCharacteristics ← readBits 8
  let matrixCoefficients ← readBits 8
  return { sps with
    colourPrimaries := colourPrimaries.toUInt8
    transferCharacteristics := transferCharacteristics.toUInt8
    matrixCoefficients := matrixCoefficients.toUInt8 }

def parseVideoSignalType (sps : H264SpsInfo) : BitReader H264SpsInfo := do
  let videoSignalTypePresentFlag ← readBit
  let sps := { sps with videoSignalTypePresentFlag }
  if videoSignalTypePresentFlag then
    let _ ← readBits 3
    let videoFullRangeFlag ← readBit
    let colourDescriptionPresentFlag ← readBit
    let sps := { sps with videoFullRangeFlag, colourDescriptionPresentFlag }
    if colourDescriptionPresentFlag then parseColourDescription sps else pure sps
  else
    pure sps

/-- The chroma sample locations, behind their present flag. -/
def skipChromaLocation : BitReader Unit := do
  let present ← readBit
  if present then
    let _ ← readUe
    let _ ← readUe
    pure ()
  else
    pure ()

def parseTimingInfo (sps : H264SpsInfo) : BitReader H264SpsInfo := do
  let timingInfoPresentFlag ← readBit
  let sps := { sps with timingInfoPresentFlag }
  if timingInfoPresentFlag then
    let numUnitsInTick ← readBits 32
    let timeScale ← readBits 32
    let fixedFrameRateFlag ← readBit
    return { sps with numUnitsInTick, timeScale, fixedFrameRateFlag }
  else
    pure sps

/-- Both HRDs, of which the second is dropped, and the `low_delay_hrd_flag` behind them. -/
def parseHrds (sps : H264SpsInfo) : BitReader H264SpsInfo := do
  let nalHrdParametersPresentFlag ← readBit
  let nalHrd ← if nalHrdParametersPresentFlag then some <$> parseHrd else pure sps.nalHrd
  let vclHrdPresent ← readBit
  let _ ← if vclHrdPresent then some <$> parseHrd else pure none
  let _ ← if nalHrdParametersPresentFlag || vclHrdPresent then readBit else pure false
  return { sps with nalHrdParametersPresentFlag, nalHrd }

def parseBitstreamRestriction (sps : H264SpsInfo) : BitReader H264SpsInfo := do
  let _ ← readBit
  let _ ← readUe
  let _ ← readUe
  let _ ← readUe
  let _ ← readUe
  let reorder ← readUe
  let _ ← readUe
  return { sps with maxNumReorderFrames := some reorder }

def parseVui (sps : H264SpsInfo) : BitReader H264SpsInfo := do
  skipAspectRatio
  skipOverscan
  let sps ← parseVideoSignalType sps
  skipChromaLocation
  let sps ← parseTimingInfo sps
  let sps ← parseHrds sps
  let picStructPresentFlag ← readBit
  let bitstreamRestrictionFlag ← readBit
  let sps := { sps with picStructPresentFlag, bitstreamRestrictionFlag }
  if bitstreamRestrictionFlag then parseBitstreamRestriction sps else pure sps

/-! ## `parse_h264_sps` and `parse_h264_pps` -/

def isHighProfile (profile : UInt8) : Bool :=
  profile ∈ [100, 110, 122, 244, 44, 83, 86, 118, 128, 138, 139, 134, 135]

/-- The loop over the scaling lists from `index` on, each behind its present flag. -/
def skipScalingLists : Nat → Nat → BitReader Unit
  | 0, _ => pure ()
  | count + 1, index => do
    let present ← readBit
    let _ ← if present then skipScalingList (if index < 6 then 16 else 64) 8 8 else pure ()
    skipScalingLists count (index + 1)

/-- What a high profile puts in front of the rest. -/
def parseHighProfile (sps : H264SpsInfo) : BitReader H264SpsInfo := do
  let chromaFormatIdc ← readUe
  guard (chromaFormatIdc ≤ 3)
  let _ ← if chromaFormatIdc = 3 then readBit else pure false
  let depthLuma ← readUe
  guard (depthLuma ≤ 6)
  let depthChroma ← readUe
  guard (depthChroma ≤ 6)
  let _ ← readBit
  let scalingMatrix ← readBit
  let _ ← if scalingMatrix then skipScalingLists (if chromaFormatIdc = 3 then 12 else 8) 0
    else pure ()
  return { sps with
    chromaFormatIdc, bitDepthLuma := depthLuma + 8, bitDepthChroma := depthChroma + 8 }

/-- The loop over the `offset_for_ref_frame` of a picture order count of type 1. -/
def skipSignedValues : Nat → BitReader Unit
  | 0 => pure ()
  | count + 1 => do
    let _ ← readSe
    skipSignedValues count

def skipPicOrderCnt : BitReader Unit := do
  let picOrderCntType ← readUe
  if picOrderCntType = 0 then
    let _ ← readUe
    pure ()
  else if picOrderCntType = 1 then
    let _ ← readBit
    let _ ← readSe
    let _ ← readSe
    let count ← readUe
    guard (count ≤ 255)
    skipSignedValues count.toNat
  else
    guard (picOrderCntType ≤ 2)

/-- The four crop offsets, behind their present flag. -/
def readCrop : BitReader (UInt32 × UInt32 × UInt32 × UInt32) := do
  let crop ← readBit
  if crop then
    let cropLeft ← readUe
    let cropRight ← readUe
    let cropTop ← readUe
    let cropBottom ← readUe
    return (cropLeft, cropRight, cropTop, cropBottom)
  else
    return (0, 0, 0, 0)

/-- The coded size and what is cropped off it; the products are the 32-bit ones of the source. -/
def parseDimensions (sps : H264SpsInfo) : BitReader H264SpsInfo := do
  let widthMbsMinus1 ← readUe
  let heightMapUnitsMinus1 ← readUe
  let frameMbsOnlyFlag ← readBit
  let _ ← if frameMbsOnlyFlag then pure false else readBit
  let _ ← readBit
  let (cropLeft, cropRight, cropTop, cropBottom) ← readCrop
  let fields : UInt32 := if frameMbsOnlyFlag then 1 else 2
  let width := (widthMbsMinus1 + 1) * 16
  let height := (heightMapUnitsMinus1 + 1) * 16 * fields
  let cropUnitX : UInt32 := if sps.chromaFormatIdc = 0 ∨ sps.chromaFormatIdc = 3 then 1 else 2
  let cropUnitY := (if sps.chromaFormatIdc = 1 then 2 else 1) * fields
  guard (¬ ((cropLeft + cropRight) * cropUnitX > width
    ∨ (cropTop + cropBottom) * cropUnitY > height))
  return { sps with
    frameMbsOnlyFlag
    width := width - (cropLeft + cropRight) * cropUnitX
    height := height - (cropTop + cropBottom) * cropUnitY }

/-- The body of `parse_h264_sps`, on the reader of the RBSP. -/
def parseSpsData : BitReader H264SpsInfo := do
  let profileIdc ← readBits 8
  let _ ← readBits 8
  let levelIdc ← readBits 8
  let spsId ← readUe
  let sps : H264SpsInfo :=
    { profileIdc := profileIdc.toUInt8, levelIdc := levelIdc.toUInt8, spsId }
  let sps ← if isHighProfile sps.profileIdc then parseHighProfile sps else pure sps
  let _ ← readUe
  skipPicOrderCnt
  let _ ← readUe
  let _ ← readBit
  let sps ← parseDimensions sps
  let vuiParametersPresentFlag ← readBit
  let sps := { sps with vuiParametersPresentFlag }
  if vuiParametersPresentFlag then parseVui sps else pure sps

def parseH264Sps (nal : NalUnit) : Option H264SpsInfo :=
  match rbspFromNal nal kH264NalSps with
  | none => none
  | some rbsp => parseSpsData.read rbsp

def parsePpsData : BitReader H264PpsInfo := do
  let ppsId ← readUe
  let spsId ← readUe
  return { ppsId, spsId }

def parseH264Pps (nal : NalUnit) : Option H264PpsInfo :=
  match rbspFromNal nal kH264NalPps with
  | none => none
  | some rbsp => parsePpsData.read rbsp

/-! ## `validate_ipmx_sps` -/

/-- An error text if its condition holds. -/
def errorIf (p : Prop) [Decidable p] (message : String) : List String :=
  if p then [message] else []

def validateIpmxSps (sps : H264SpsInfo) (expected : H264StreamFormat) : List String :=
  errorIf (sps.profileIdc ≠ 77 ∧ sps.profileIdc ≠ 100) "profile is not Main or High"
    ++ errorIf (sps.chromaFormatIdc ≠ 1) "chroma format is not 4:2:0"
    ++ errorIf (sps.bitDepthLuma ≠ 8 ∨ sps.bitDepthChroma ≠ 8) "sample depth is not 8-bit"
    ++ errorIf (sps.width ≠ expected.width ∨ sps.height ≠ expected.height)
        "coded dimensions do not match"
    ++ errorIf (¬ sps.frameMbsOnlyFlag) "stream is not progressive frame-coded"
    ++ errorIf (¬ sps.vuiParametersPresentFlag) "VUI is absent"
    ++ errorIf (¬ sps.videoSignalTypePresentFlag) "video_signal_type is absent"
    ++ errorIf sps.videoFullRangeFlag "video range is not narrow"
    ++ errorIf (¬ sps.colourDescriptionPresentFlag) "colour description is absent"
    ++ errorIf (sps.colourPrimaries ≠ 1 ∨ sps.transferCharacteristics ≠ 1
        ∨ sps.matrixCoefficients ≠ 1) "colourimetry is not BT.709"
    ++ errorIf (¬ sps.timingInfoPresentFlag) "timing info is absent"
    ++ errorIf (sps.numUnitsInTick ≠ expected.fpsDenominator
        ∨ sps.timeScale.toUInt64 ≠ expected.fpsNumerator.toUInt64 * 2)
        "VUI timing does not match frame rate"
    ++ (match sps.nalHrdParametersPresentFlag, sps.nalHrd with
        | true, some hrd => errorIf (hrd.cpbCntMinus1 ≠ 0) "HRD has more than one CPB"
        | _, _ => ["NAL HRD is absent"])
    ++ (match sps.maxNumReorderFrames with
        | some reorder => errorIf (reorder ≠ 0) "pictures may be reordered"
        | none => [])

/-- `validate_ipmx_vbr_sender_sps`. -/
def validateIpmxVbrSenderSps (sps : H264SpsInfo) (expected : H264StreamFormat) : List String :=
  validateIpmxSps sps expected
    ++ (match sps.nalHrd with
        | some hrd => errorIf hrd.cbrFlag "HRD signals CBR instead of VBR"
        | none => [])

end Ipmx.H264
