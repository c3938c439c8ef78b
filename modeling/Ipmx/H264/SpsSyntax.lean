/-
Ipmx.H264.SpsSyntax — the sequence parameter set syntax of ITU-T H.264
7.3.2.1.1 with the VUI and HRD syntax of Annex E, as an encoder.

Nothing here is translated from the source: this is the reference
`parse_h264_sps` is compared with. The types hold exactly the syntax elements
that are written, so a part that is absent has no value, and a list has no
more entries than its counter may announce. The values are those a 32-bit
reader can take, which is more than the recommendation's own semantics allow.
-/
import Ipmx.H264.ParameterSets
import Ipmx.H264.Rbsp
import Ipmx.Lib.BitCode

namespace Ipmx.H264

open Lib.BitCode

/-! ## Descriptors -/

/-- The code numbers of `ue(v)`. -/
abbrev UeValue := Fin 4294967295

instance UeValue.neZero : NeZero 4294967295 := ⟨by decide⟩

/-- The values of `se(v)`. -/
abbrev SeValue := { value : Int // -(2 ^ 31 : Int) < value ∧ value < 2 ^ 31 }

/-- The values of `delta_scale`. -/
abbrev DeltaScale := { value : Int // -128 ≤ value ∧ value ≤ 127 }

def writeU {n : Nat} (value : BitVec n) : List Bool := fixedBits n value.toNat

def writeUe (value : UeValue) : List Bool := expGolomb value

def writeSe (value : Int) : List Bool := signedExpGolomb value

/-- A part behind its present flag. -/
def writeOptional {α : Type} (encode : α → List Bool) : Option α → List Bool
  | none => [false]
  | some value => true :: encode value

/-! ## Annex E -/

structure Cpb where
  bitRateValueMinus1 : UeValue
  cpbSizeValueMinus1 : UeValue
  cbrFlag : Bool

/-- `hrd_parameters`, with one CPB at least and 32 at most. -/
structure HrdParameters where
  bitRateScale : BitVec 4
  cpbSizeScale : BitVec 4
  firstCpb : Cpb
  otherCpbs : List Cpb
  otherCpbs_length : otherCpbs.length ≤ 31
  initialCpbRemovalDelayLengthMinus1 : BitVec 5
  cpbRemovalDelayLengthMinus1 : BitVec 5
  dpbOutputDelayLengthMinus1 : BitVec 5
  timeOffsetLength : BitVec 5

inductive AspectRatio where
  | idc (aspectRatioIdc : BitVec 8) (notExtended : aspectRatioIdc ≠ 255)
  | extendedSar (sarWidth sarHeight : BitVec 16)

structure ColourDescription where
  colourPrimaries : UInt8
  transferCharacteristics : UInt8
  matrixCoefficients : UInt8

structure VideoSignalType where
  videoFormat : BitVec 3
  videoFullRangeFlag : Bool
  colourDescription : Option ColourDescription

structure ChromaLocInfo where
  chromaSampleLocTypeTopField : UeValue
  chromaSampleLocTypeBottomField : UeValue

structure TimingInfo where
  numUnitsInTick : UInt32
  timeScale : UInt32
  fixedFrameRateFlag : Bool

structure BitstreamRestriction where
  motionVectorsOverPicBoundariesFlag : Bool
  maxBytesPerPicDenom : UeValue
  maxBitsPerMbDenom : UeValue
  log2MaxMvLengthHorizontal : UeValue
  log2MaxMvLengthVertical : UeValue
  maxNumReorderFrames : UeValue
  maxDecFrameBuffering : UeValue

/-- `vui_parameters`; `lowDelayHrdFlag` is written only behind an HRD. -/
structure VuiParameters where
  aspectRatio : Option AspectRatio
  overscanAppropriateFlag : Option Bool
  videoSignalType : Option VideoSignalType
  chromaLocInfo : Option ChromaLocInfo
  timingInfo : Option TimingInfo
  nalHrd : Option HrdParameters
  vclHrd : Option HrdParameters
  lowDelayHrdFlag : Bool
  picStructPresentFlag : Bool
  bitstreamRestriction : Option BitstreamRestriction

def Cpb.encode (cpb : Cpb) : List Bool :=
  writeUe cpb.bitRateValueMinus1 ++ (writeUe cpb.cpbSizeValueMinus1 ++ [cpb.cbrFlag])

def HrdParameters.cpbCntMinus1 (hrd : HrdParameters) : UeValue :=
  ⟨hrd.otherCpbs.length, by have := hrd.otherCpbs_length; omega⟩

def HrdParameters.encode (hrd : HrdParameters) : List Bool :=
  writeUe hrd.cpbCntMinus1 ++ (writeU hrd.bitRateScale ++ (writeU hrd.cpbSizeScale
    ++ (hrd.firstCpb.encode ++ (hrd.otherCpbs.flatMap Cpb.encode
    ++ (writeU hrd.initialCpbRemovalDelayLengthMinus1 ++ (writeU hrd.cpbRemovalDelayLengthMinus1
    ++ (writeU hrd.dpbOutputDelayLengthMinus1 ++ writeU hrd.timeOffsetLength)))))))

def AspectRatio.encode : AspectRatio → List Bool
  | .idc aspectRatioIdc _ => writeU aspectRatioIdc
  | .extendedSar sarWidth sarHeight =>
    writeU (255 : BitVec 8) ++ (writeU sarWidth ++ writeU sarHeight)

def ColourDescription.encode (colour : ColourDescription) : List Bool :=
  writeU colour.colourPrimaries.toBitVec ++ (writeU colour.transferCharacteristics.toBitVec
    ++ writeU colour.matrixCoefficients.toBitVec)

def VideoSignalType.encode (signal : VideoSignalType) : List Bool :=
  writeU signal.videoFormat ++ ([signal.videoFullRangeFlag]
    ++ writeOptional ColourDescription.encode signal.colourDescription)

def ChromaLocInfo.encode (loc : ChromaLocInfo) : List Bool :=
  writeUe loc.chromaSampleLocTypeTopField ++ writeUe loc.chromaSampleLocTypeBottomField

def TimingInfo.encode (timing : TimingInfo) : List Bool :=
  writeU timing.numUnitsInTick.toBitVec ++ (writeU timing.timeScale.toBitVec
    ++ [timing.fixedFrameRateFlag])

def BitstreamRestriction.encode (restriction : BitstreamRestriction) : List Bool :=
  [restriction.motionVectorsOverPicBoundariesFlag] ++ (writeUe restriction.maxBytesPerPicDenom
    ++ (writeUe restriction.maxBitsPerMbDenom ++ (writeUe restriction.log2MaxMvLengthHorizontal
    ++ (writeUe restriction.log2MaxMvLengthVertical ++ (writeUe restriction.maxNumReorderFrames
    ++ writeUe restriction.maxDecFrameBuffering)))))

/-- Both HRDs and the flag behind them. -/
def VuiParameters.encodeHrds (vui : VuiParameters) : List Bool :=
  writeOptional HrdParameters.encode vui.nalHrd ++ (writeOptional HrdParameters.encode vui.vclHrd
    ++ if vui.nalHrd.isSome || vui.vclHrd.isSome then [vui.lowDelayHrdFlag] else [])

def VuiParameters.encode (vui : VuiParameters) : List Bool :=
  writeOptional AspectRatio.encode vui.aspectRatio
    ++ (writeOptional (fun flag => [flag]) vui.overscanAppropriateFlag
    ++ (writeOptional VideoSignalType.encode vui.videoSignalType
    ++ (writeOptional ChromaLocInfo.encode vui.chromaLocInfo
    ++ (writeOptional TimingInfo.encode vui.timingInfo
    ++ (vui.encodeHrds ++ ([vui.picStructPresentFlag]
    ++ writeOptional BitstreamRestriction.encode vui.bitstreamRestriction))))))

/-! ## `seq_parameter_set_data` -/

/-- `chroma_format_idc` and, for 4:4:4, `separate_colour_plane_flag`. -/
inductive ChromaFormat where
  | monochrome
  | yuv420
  | yuv422
  | yuv444 (separateColourPlaneFlag : Bool)

/-- The scaling lists that have their present flag set; an 8x8 list holds 64 entries. -/
structure ScalingMatrix where
  lists4x4 : Vector (Option (Vector DeltaScale 16)) 6
  lists8x8 : List (Option (Vector DeltaScale 64))

/-- What is written for the profiles that have `chroma_format_idc`. -/
structure HighProfile where
  chromaFormat : ChromaFormat
  bitDepthLumaMinus8 : Fin 7
  bitDepthChromaMinus8 : Fin 7
  qpprimeYZeroTransformBypassFlag : Bool
  scalingMatrix : Option ScalingMatrix
  lists8x8_length : ∀ m ∈ scalingMatrix, m.lists8x8.length =
    match chromaFormat with
    | .yuv444 _ => 6
    | _ => 2

inductive PicOrderCnt where
  | type0 (log2MaxPicOrderCntLsbMinus4 : UeValue)
  | type1 (deltaPicOrderAlwaysZeroFlag : Bool) (offsetForNonRefPic : SeValue)
      (offsetForTopToBottomField : SeValue) (offsetForRefFrame : List SeValue)
      (length_le : offsetForRefFrame.length ≤ 255)
  | type2

/-- `frame_mbs_only_flag` and, where it is clear, `mb_adaptive_frame_field_flag`. -/
inductive FrameCoding where
  | frames
  | fields (mbAdaptiveFrameFieldFlag : Bool)

structure FrameCropping where
  frameCropLeftOffset : UeValue
  frameCropRightOffset : UeValue
  frameCropTopOffset : UeValue
  frameCropBottomOffset : UeValue

/-- The values of `profile_idc` behind which `chroma_format_idc` is written. -/
def hasChromaFormatIdc (profileIdc : UInt8) : Bool :=
  profileIdc == 100 || profileIdc == 110 || profileIdc == 122 || profileIdc == 244
    || profileIdc == 44 || profileIdc == 83 || profileIdc == 86 || profileIdc == 118
    || profileIdc == 128 || profileIdc == 138 || profileIdc == 139 || profileIdc == 134
    || profileIdc == 135

structure SpsSyntax where
  profileIdc : UInt8
  /-- The constraint flags and the reserved zero bits. -/
  constraintFlags : UInt8
  levelIdc : UInt8
  seqParameterSetId : UeValue
  highProfile : Option HighProfile
  highProfile_isSome : highProfile.isSome = hasChromaFormatIdc profileIdc
  log2MaxFrameNumMinus4 : UeValue
  picOrderCnt : PicOrderCnt
  maxNumRefFrames : UeValue
  gapsInFrameNumValueAllowedFlag : Bool
  picWidthInMbsMinus1 : UeValue
  picHeightInMapUnitsMinus1 : UeValue
  frameCoding : FrameCoding
  direct8x8InferenceFlag : Bool
  frameCropping : Option FrameCropping
  vui : Option VuiParameters

def ChromaFormat.chromaFormatIdc : ChromaFormat → UeValue
  | .monochrome => 0
  | .yuv420 => 1
  | .yuv422 => 2
  | .yuv444 _ => 3

def ChromaFormat.encode (format : ChromaFormat) : List Bool :=
  writeUe format.chromaFormatIdc ++
    match format with
    | .yuv444 separateColourPlaneFlag => [separateColourPlaneFlag]
    | _ => []

/-- `scaling_list`: a `delta_scale` is written as long as the next scale is not zero. -/
def encodeScalingList : Int → Int → List DeltaScale → List Bool
  | _, _, [] => []
  | lastScale, nextScale, deltaScale :: rest =>
    if nextScale = 0 then
      encodeScalingList lastScale nextScale rest
    else
      let nextScale := (lastScale + deltaScale.val + 256) % 256
      writeSe deltaScale ++
        encodeScalingList (if nextScale = 0 then lastScale else nextScale) nextScale rest

def ScalingMatrix.encode (m : ScalingMatrix) : List Bool :=
  m.lists4x4.toList.flatMap (writeOptional fun list => encodeScalingList 8 8 list.toList)
    ++ m.lists8x8.flatMap (writeOptional fun list => encodeScalingList 8 8 list.toList)

def HighProfile.encode (high : HighProfile) : List Bool :=
  high.chromaFormat.encode ++ (expGolomb high.bitDepthLumaMinus8
    ++ (expGolomb high.bitDepthChromaMinus8 ++ ([high.qpprimeYZeroTransformBypassFlag]
    ++ writeOptional ScalingMatrix.encode high.scalingMatrix)))

def PicOrderCnt.encode : PicOrderCnt → List Bool
  | .type0 log2MaxPicOrderCntLsbMinus4 => writeUe 0 ++ writeUe log2MaxPicOrderCntLsbMinus4
  | .type1 alwaysZero nonRefPic topToBottomField refFrame _ =>
    writeUe 1 ++ ([alwaysZero] ++ (writeSe nonRefPic ++ (writeSe topToBottomField
      ++ (expGolomb refFrame.length ++ refFrame.flatMap fun offset => writeSe offset))))
  | .type2 => writeUe 2

def FrameCoding.frameMbsOnlyFlag : FrameCoding → Bool
  | .frames => true
  | .fields _ => false

def FrameCoding.encode : FrameCoding → List Bool
  | .frames => [true]
  | .fields mbAdaptiveFrameFieldFlag => [false, mbAdaptiveFrameFieldFlag]

def FrameCropping.encode (crop : FrameCropping) : List Bool :=
  writeUe crop.frameCropLeftOffset ++ (writeUe crop.frameCropRightOffset
    ++ (writeUe crop.frameCropTopOffset ++ writeUe crop.frameCropBottomOffset))

namespace SpsSyntax

/-- The size of the pictures and what is cropped off them. -/
def encodeDimensions (sps : SpsSyntax) : List Bool :=
  writeUe sps.picWidthInMbsMinus1 ++ (writeUe sps.picHeightInMapUnitsMinus1
    ++ (sps.frameCoding.encode ++ ([sps.direct8x8InferenceFlag]
    ++ writeOptional FrameCropping.encode sps.frameCropping)))

def encode (sps : SpsSyntax) : List Bool :=
  writeU sps.profileIdc.toBitVec ++ (writeU sps.constraintFlags.toBitVec
    ++ (writeU sps.levelIdc.toBitVec ++ (writeUe sps.seqParameterSetId
    ++ (sps.highProfile.elim [] HighProfile.encode
    ++ (writeUe sps.log2MaxFrameNumMinus4 ++ (sps.picOrderCnt.encode
    ++ (writeUe sps.maxNumRefFrames ++ ([sps.gapsInFrameNumValueAllowedFlag]
    ++ (sps.encodeDimensions ++ writeOptional VuiParameters.encode sps.vui)))))))))

/-- The NAL unit of a sequence parameter set. -/
def nal (sps : SpsSyntax) (nalRefIdc : Fin 4) : NalUnit :=
  encodeNal nalRefIdc 7 (packBits (withTrailingBits sps.encode))

/-! ## What the syntax says -/

/-- 4:2:0 where no `chroma_format_idc` is written. -/
def chromaFormat (sps : SpsSyntax) : ChromaFormat :=
  sps.highProfile.elim .yuv420 HighProfile.chromaFormat

/-- `2 - frame_mbs_only_flag`. -/
def fieldFactor (sps : SpsSyntax) : Nat :=
  match sps.frameCoding with
  | .frames => 1
  | .fields _ => 2

/-- `PicWidthInSamplesL`. -/
def codedWidth (sps : SpsSyntax) : Nat := (sps.picWidthInMbsMinus1.val + 1) * 16

/-- `FrameHeightInMbs` in samples: `(2 - frame_mbs_only_flag) * PicHeightInMapUnits * 16`. -/
def codedHeight (sps : SpsSyntax) : Nat :=
  sps.fieldFactor * (sps.picHeightInMapUnitsMinus1.val + 1) * 16

end SpsSyntax

/-- `ChromaArrayType`: separate colour planes are coded like monochrome. -/
def ChromaFormat.chromaArrayType : ChromaFormat → Nat
  | .monochrome => 0
  | .yuv420 => 1
  | .yuv422 => 2
  | .yuv444 separateColourPlaneFlag => if separateColourPlaneFlag then 0 else 3

/-- `CropUnitX`: one sample, or `SubWidthC` of the chroma array type. -/
def ChromaFormat.cropUnitX (format : ChromaFormat) : Nat :=
  match format.chromaArrayType with
  | 1 => 2
  | 2 => 2
  | _ => 1

/-- `CropUnitY` of a frame: one sample, or `SubHeightC` of the chroma array type. -/
def ChromaFormat.cropUnitY (format : ChromaFormat) : Nat :=
  match format.chromaArrayType with
  | 1 => 2
  | _ => 1

namespace SpsSyntax

/-- The samples cropped off a row. -/
def cropWidth (sps : SpsSyntax) : Nat :=
  sps.frameCropping.elim 0 fun crop =>
    sps.chromaFormat.cropUnitX * (crop.frameCropLeftOffset.val + crop.frameCropRightOffset.val)

/-- The samples cropped off a column. -/
def cropHeight (sps : SpsSyntax) : Nat :=
  sps.frameCropping.elim 0 fun crop =>
    sps.chromaFormat.cropUnitY * sps.fieldFactor
      * (crop.frameCropTopOffset.val + crop.frameCropBottomOffset.val)

def videoSignalType (sps : SpsSyntax) : Option VideoSignalType :=
  sps.vui.bind VuiParameters.videoSignalType

def colourDescription (sps : SpsSyntax) : Option ColourDescription :=
  sps.videoSignalType.bind VideoSignalType.colourDescription

def timingInfo (sps : SpsSyntax) : Option TimingInfo :=
  sps.vui.bind VuiParameters.timingInfo

def nalHrd (sps : SpsSyntax) : Option HrdParameters :=
  sps.vui.bind VuiParameters.nalHrd

def bitstreamRestriction (sps : SpsSyntax) : Option BitstreamRestriction :=
  sps.vui.bind VuiParameters.bitstreamRestriction

/-- What the syntax says, in the fields of `H264SpsInfo`; an absent field has its default. -/
def info (sps : SpsSyntax) : H264SpsInfo where
  profileIdc := sps.profileIdc
  levelIdc := sps.levelIdc
  spsId := UInt32.ofNat sps.seqParameterSetId
  chromaFormatIdc := UInt32.ofNat sps.chromaFormat.chromaFormatIdc
  bitDepthLuma := sps.highProfile.elim 8 fun high => UInt32.ofNat (8 + high.bitDepthLumaMinus8.val)
  bitDepthChroma :=
    sps.highProfile.elim 8 fun high => UInt32.ofNat (8 + high.bitDepthChromaMinus8.val)
  width := UInt32.ofNat (sps.codedWidth - sps.cropWidth)
  height := UInt32.ofNat (sps.codedHeight - sps.cropHeight)
  frameMbsOnlyFlag := sps.frameCoding.frameMbsOnlyFlag
  vuiParametersPresentFlag := sps.vui.isSome
  videoSignalTypePresentFlag := sps.videoSignalType.isSome
  videoFullRangeFlag := sps.videoSignalType.elim false VideoSignalType.videoFullRangeFlag
  colourDescriptionPresentFlag := sps.colourDescription.isSome
  colourPrimaries := sps.colourDescription.elim 2 ColourDescription.colourPrimaries
  transferCharacteristics :=
    sps.colourDescription.elim 2 ColourDescription.transferCharacteristics
  matrixCoefficients := sps.colourDescription.elim 2 ColourDescription.matrixCoefficients
  timingInfoPresentFlag := sps.timingInfo.isSome
  numUnitsInTick := sps.timingInfo.elim 0 TimingInfo.numUnitsInTick
  timeScale := sps.timingInfo.elim 0 TimingInfo.timeScale
  fixedFrameRateFlag := sps.timingInfo.elim false TimingInfo.fixedFrameRateFlag
  nalHrdParametersPresentFlag := sps.nalHrd.isSome
  nalHrd := sps.nalHrd.map fun hrd =>
    { cpbCntMinus1 := UInt32.ofNat hrd.cpbCntMinus1, cbrFlag := hrd.firstCpb.cbrFlag }
  picStructPresentFlag := sps.vui.elim false VuiParameters.picStructPresentFlag
  bitstreamRestrictionFlag := sps.bitstreamRestriction.isSome
  maxNumReorderFrames :=
    sps.bitstreamRestriction.map fun restriction => UInt32.ofNat restriction.maxNumReorderFrames

end SpsSyntax

end Ipmx.H264
