/-
Ipmx.H264.SpsSyntaxTheorems — `parse_h264_sps` is the inverse of the sequence
parameter set syntax.

Each part of the parser reads exactly what the encoder writes for it
(`reads_*`), in the order of the syntax tables, and the parts are put together
by `Reads.bind`.
-/
import Ipmx.H264.BitReaderTheorems
import Ipmx.H264.SpsSyntax

namespace Ipmx.H264

open Lib Lib.BitCode

/-! ## Descriptors -/

theorem reads_writeU {n : Nat} (hn : n ≤ 32) (value : BitVec n) :
    Reads (readBits n) (writeU value) (UInt32.ofNat value.toNat) :=
  reads_bits hn value.isLt

theorem reads_writeUe (value : UeValue) : Reads readUe (writeUe value) (UInt32.ofNat value) :=
  reads_ue value.isLt

theorem reads_writeSe (value : SeValue) : Reads readSe (writeSe value) value :=
  reads_se value.property.1 value.property.2

/-- A part behind its present flag, by what the reader does behind either flag. -/
theorem reads_writeOptional {α β : Type} {encode : α → List Bool} {next : Bool → BitReader β}
    {value : β} {part : Option α} (hnone : part = none → Reads (next false) [] value)
    (hsome : ∀ a, part = some a → Reads (next true) (encode a) value) :
    Reads (readBit >>= next) (writeOptional encode part) value := by
  cases part with
  | none => exact (reads_bit false).bind (hnone rfl)
  | some a => exact (reads_bit true).bind (hsome a rfl)

/-! ## HRD -/

theorem reads_cpb (cpb : Cpb) : Reads readCpb cpb.encode cpb.cbrFlag := by
  refine (reads_writeUe _).bind ?_
  refine (reads_writeUe _).bind ?_
  exact reads_bit _

theorem reads_cpbs (cpbs : List Cpb) :
    Reads (skipCpbs cpbs.length) (cpbs.flatMap Cpb.encode) () := by
  induction cpbs with
  | nil => exact Reads.pure ()
  | cons cpb cpbs ih => exact (reads_cpb cpb).bind ih

theorem toNat_ofNat_ue (value : UeValue) : (UInt32.ofNat value).toNat = value := by
  rw [UInt32.toNat_ofNat', Nat.mod_eq_of_lt (by omega)]

theorem reads_hrd (hrd : HrdParameters) :
    Reads parseHrd hrd.encode
      { cpbCntMinus1 := UInt32.ofNat hrd.cpbCntMinus1, cbrFlag := hrd.firstCpb.cbrFlag } := by
  have hcount : (UInt32.ofNat hrd.cpbCntMinus1).toNat = hrd.otherCpbs.length :=
    toNat_ofNat_ue hrd.cpbCntMinus1
  have hle : UInt32.ofNat hrd.cpbCntMinus1 ≤ 31 := by
    rw [UInt32.le_iff_toNat_le, hcount]
    exact hrd.otherCpbs_length
  refine (reads_writeUe _).bind ?_
  refine Reads.guard_bind hle ?_
  refine (reads_writeU (by omega) _).bind ?_
  refine (reads_writeU (by omega) _).bind ?_
  refine (reads_cpb _).bind ?_
  rw [hcount]
  refine (reads_cpbs _).bind ?_
  refine (reads_writeU (by omega) _).bind ?_
  refine (reads_writeU (by omega) _).bind ?_
  refine (reads_writeU (by omega) _).bind ?_
  exact (reads_writeU (by omega) _).bind_pure rfl

/-! ## VUI -/

theorem toUInt8_ofNat (value : UInt8) : (UInt32.ofNat value.toBitVec.toNat).toUInt8 = value := by
  rw [← UInt8.toNat_inj]
  simp

theorem ofNat_toBitVec (value : UInt32) : UInt32.ofNat value.toBitVec.toNat = value := by
  rw [← UInt32.toNat_inj]
  simp

theorem reads_aspectRatio (part : Option AspectRatio) :
    Reads skipAspectRatio (writeOptional AspectRatio.encode part) () := by
  refine reads_writeOptional (fun _ => Reads.pure ()) ?_
  intro ratio _
  cases ratio with
  | idc aspectRatioIdc notExtended =>
    have hne : UInt32.ofNat aspectRatioIdc.toNat ≠ 255 := by
      intro h
      have htoNat := congrArg UInt32.toNat h
      rw [UInt32.toNat_ofNat', Nat.mod_eq_of_lt (by omega)] at htoNat
      exact notExtended (BitVec.eq_of_toNat_eq htoNat)
    refine (reads_writeU (by omega) _).bind_pure ?_
    rw [if_neg hne]
  | extendedSar sarWidth sarHeight =>
    refine (reads_writeU (by omega) _).bind ?_
    refine (reads_writeU (by omega) _).bind ?_
    exact (reads_writeU (by omega) _).bind_pure rfl

theorem reads_overscan (part : Option Bool) :
    Reads skipOverscan (writeOptional (fun flag => [flag]) part) () := by
  refine reads_writeOptional (fun _ => Reads.pure ()) ?_
  intro flag _
  exact (reads_bit flag).bind_pure rfl

theorem reads_chromaLocInfo (part : Option ChromaLocInfo) :
    Reads skipChromaLocation (writeOptional ChromaLocInfo.encode part) () := by
  refine reads_writeOptional (fun _ => Reads.pure ()) ?_
  intro loc _
  refine (reads_writeUe _).bind ?_
  exact (reads_writeUe _).bind_pure rfl

theorem reads_colourDescription (colour : ColourDescription) (sps : H264SpsInfo) :
    Reads (parseColourDescription sps) colour.encode
      { sps with
        colourPrimaries := colour.colourPrimaries
        transferCharacteristics := colour.transferCharacteristics
        matrixCoefficients := colour.matrixCoefficients } := by
  refine (reads_writeU (by omega) _).bind ?_
  refine (reads_writeU (by omega) _).bind ?_
  refine (reads_writeU (by omega) _).bind_pure ?_
  rw [toUInt8_ofNat, toUInt8_ofNat, toUInt8_ofNat]

/-- The colour description of a signal type that may be absent itself. -/
def colourOf (signal : Option VideoSignalType) : Option ColourDescription :=
  signal.bind VideoSignalType.colourDescription

theorem reads_videoSignalType (part : Option VideoSignalType) (sps : H264SpsInfo)
    (habsent : sps.videoFullRangeFlag = false ∧ sps.colourDescriptionPresentFlag = false) :
    Reads (parseVideoSignalType sps) (writeOptional VideoSignalType.encode part)
      { sps with
        videoSignalTypePresentFlag := part.isSome
        videoFullRangeFlag := part.elim false VideoSignalType.videoFullRangeFlag
        colourDescriptionPresentFlag := (colourOf part).isSome
        colourPrimaries :=
          (colourOf part).elim sps.colourPrimaries ColourDescription.colourPrimaries
        transferCharacteristics := (colourOf part).elim sps.transferCharacteristics
          ColourDescription.transferCharacteristics
        matrixCoefficients := (colourOf part).elim sps.matrixCoefficients
          ColourDescription.matrixCoefficients } := by
  refine reads_writeOptional ?_ ?_
  · rintro rfl
    obtain ⟨hrange, hcolour⟩ := habsent
    cases sps
    simp only at hrange hcolour
    subst hrange hcolour
    exact Reads.pure _
  · rintro ⟨videoFormat, videoFullRangeFlag, colour⟩ rfl
    refine (reads_writeU (by omega) _).bind ?_
    refine (reads_bit _).bind ?_
    cases colour with
    | none => exact (reads_bit false).bind_pure rfl
    | some colour => exact (reads_bit true).bind (reads_colourDescription colour _)

theorem reads_timingInfo (part : Option TimingInfo) (sps : H264SpsInfo) :
    Reads (parseTimingInfo sps) (writeOptional TimingInfo.encode part)
      { sps with
        timingInfoPresentFlag := part.isSome
        numUnitsInTick := part.elim sps.numUnitsInTick TimingInfo.numUnitsInTick
        timeScale := part.elim sps.timeScale TimingInfo.timeScale
        fixedFrameRateFlag := part.elim sps.fixedFrameRateFlag TimingInfo.fixedFrameRateFlag } := by
  refine reads_writeOptional ?_ ?_
  · rintro rfl
    exact Reads.pure _
  · rintro timing rfl
    refine (reads_writeU (by omega) _).bind ?_
    refine (reads_writeU (by omega) _).bind ?_
    refine (reads_bit _).bind_pure ?_
    rw [ofNat_toBitVec, ofNat_toBitVec]
    rfl

/-- The field of `H264SpsInfo` a NAL HRD fills. -/
def hrdInfo (hrd : HrdParameters) : H264HrdInfo :=
  { cpbCntMinus1 := UInt32.ofNat hrd.cpbCntMinus1, cbrFlag := hrd.firstCpb.cbrFlag }

/-- One HRD behind its present flag, as `parse_vui` reads either of them. -/
theorem reads_optionalHrd {β : Type} (next : Bool → Option H264HrdInfo → BitReader β)
    {chunk : List Bool} {value : β} (part : Option HrdParameters)
    (hnext : Reads (next part.isSome (part.map hrdInfo)) chunk value) :
    Reads (do
        let present ← readBit
        let hrd ← if present then some <$> parseHrd else pure none
        next present hrd)
      (writeOptional HrdParameters.encode part ++ chunk) value := by
  cases part with
  | none =>
    refine (reads_bit false).bind ?_
    exact (Reads.pure none).bind hnext
  | some hrd =>
    refine (reads_bit true).bind ?_
    exact ((reads_hrd hrd).map some).bind hnext

theorem reads_hrds (vui : VuiParameters) (sps : H264SpsInfo) (habsent : sps.nalHrd = none) :
    Reads (parseHrds sps) vui.encodeHrds
      { sps with
        nalHrdParametersPresentFlag := vui.nalHrd.isSome
        nalHrd := vui.nalHrd.map hrdInfo } := by
  unfold parseHrds
  rw [habsent]
  refine reads_optionalHrd _ vui.nalHrd ?_
  refine reads_optionalHrd (fun vclHrdPresent _ => do
    let _ ← if vui.nalHrd.isSome || vclHrdPresent then readBit else pure false
    pure { sps with
      nalHrdParametersPresentFlag := vui.nalHrd.isSome
      nalHrd := vui.nalHrd.map hrdInfo }) vui.vclHrd ?_
  cases vui.nalHrd.isSome || vui.vclHrd.isSome with
  | false => exact (Reads.pure false).bind (Reads.pure _)
  | true => exact (reads_bit _).bind (Reads.pure _)

theorem reads_bitstreamRestriction (restriction : BitstreamRestriction) (sps : H264SpsInfo) :
    Reads (parseBitstreamRestriction sps) restriction.encode
      { sps with
        maxNumReorderFrames := some (UInt32.ofNat restriction.maxNumReorderFrames) } := by
  refine (reads_bit _).bind ?_
  refine (reads_writeUe _).bind ?_
  refine (reads_writeUe _).bind ?_
  refine (reads_writeUe _).bind ?_
  refine (reads_writeUe _).bind ?_
  refine (reads_writeUe _).bind ?_
  exact (reads_writeUe _).bind_pure rfl

/-- `parse_vui` on the information gathered in front of it, none of which is the VUI's. -/
theorem reads_vui (vui : VuiParameters) (sps : H264SpsInfo)
    (habsent : sps.videoFullRangeFlag = false ∧ sps.colourDescriptionPresentFlag = false)
    (hnalHrd : sps.nalHrd = none) (hreorder : sps.maxNumReorderFrames = none) :
    Reads (parseVui sps) vui.encode
      { sps with
        videoSignalTypePresentFlag := vui.videoSignalType.isSome
        videoFullRangeFlag := vui.videoSignalType.elim false VideoSignalType.videoFullRangeFlag
        colourDescriptionPresentFlag := (colourOf vui.videoSignalType).isSome
        colourPrimaries := (colourOf vui.videoSignalType).elim sps.colourPrimaries
          ColourDescription.colourPrimaries
        transferCharacteristics := (colourOf vui.videoSignalType).elim
          sps.transferCharacteristics ColourDescription.transferCharacteristics
        matrixCoefficients := (colourOf vui.videoSignalType).elim sps.matrixCoefficients
          ColourDescription.matrixCoefficients
        timingInfoPresentFlag := vui.timingInfo.isSome
        numUnitsInTick := vui.timingInfo.elim sps.numUnitsInTick TimingInfo.numUnitsInTick
        timeScale := vui.timingInfo.elim sps.timeScale TimingInfo.timeScale
        fixedFrameRateFlag :=
          vui.timingInfo.elim sps.fixedFrameRateFlag TimingInfo.fixedFrameRateFlag
        nalHrdParametersPresentFlag := vui.nalHrd.isSome
        nalHrd := vui.nalHrd.map hrdInfo
        picStructPresentFlag := vui.picStructPresentFlag
        bitstreamRestrictionFlag := vui.bitstreamRestriction.isSome
        maxNumReorderFrames := vui.bitstreamRestriction.map
          fun restriction => UInt32.ofNat restriction.maxNumReorderFrames } := by
  refine (reads_aspectRatio _).bind ?_
  refine (reads_overscan _).bind ?_
  refine (reads_videoSignalType _ _ habsent).bind ?_
  refine (reads_chromaLocInfo _).bind ?_
  refine (reads_timingInfo _ _).bind ?_
  refine Reads.bind (reads_hrds vui _ ?_) ?_
  · exact hnalHrd
  refine (reads_bit _).bind ?_
  refine reads_writeOptional ?_ ?_
  · intro hnone
    rw [hnone, Option.map_none, ← hreorder]
    exact Reads.pure _
  · intro restriction hsome
    rw [hsome]
    exact reads_bitstreamRestriction restriction _

/-! ## Profile, picture order count and dimensions -/

theorem reads_chromaFormat {β : Type} {next : UInt32 → Bool → BitReader β} {chunk : List Bool}
    {value : β} (format : ChromaFormat)
    (hnext : ∀ flag, Reads (next (UInt32.ofNat format.chromaFormatIdc) flag) chunk value) :
    Reads (do
        let chromaFormatIdc ← readUe
        guard (chromaFormatIdc ≤ 3)
        let flag ← if chromaFormatIdc = 3 then readBit else pure false
        next chromaFormatIdc flag)
      (format.encode ++ chunk) value := by
  unfold ChromaFormat.encode
  rw [List.append_assoc]
  refine (reads_writeUe _).bind ?_
  cases format with
  | yuv444 separate =>
    refine Reads.guard_bind (show (3 : UInt32) ≤ 3 by decide) ?_
    exact (reads_bit separate).bind (hnext separate)
  | _ =>
    refine Reads.guard_bind (by decide) ?_
    exact (Reads.pure false).bind (hnext false)

/-- The values `scaling_list` goes through are the parser's, list entry by list entry. -/
theorem reads_scalingList (deltas : List DeltaScale) (lastScale nextScale : Int) :
    Reads (skipScalingList deltas.length lastScale nextScale)
      (encodeScalingList lastScale nextScale deltas) () := by
  induction deltas generalizing lastScale nextScale with
  | nil => exact Reads.pure ()
  | cons delta deltas ih =>
    rw [encodeScalingList]
    by_cases hzero : nextScale = 0
    · subst hzero
      exact (Reads.pure 0).bind (ih lastScale 0)
    · have hrange : -(2 ^ 31 : Int) < delta.val ∧ delta.val < 2 ^ 31 := by
        have := delta.property
        omega
      rw [if_neg hzero]
      unfold List.length skipScalingList
      rw [if_pos hzero]
      refine (reads_se hrange.1 hrange.2).bind ?_
      refine Reads.guard_bind delta.property ?_
      exact (Reads.pure _).bind (ih _ _)

/-- Scaling lists of one size, with the lists of the rest of the loop behind them. -/
theorem reads_scalingLists {size more : Nat} {chunk : List Bool}
    (lists : List (Option (Vector DeltaScale size))) (index : Nat)
    (hsize : ∀ i < lists.length, (if index + i < 6 then 16 else 64) = size)
    (hmore : Reads (skipScalingLists more (index + lists.length)) chunk ()) :
    Reads (skipScalingLists (lists.length + more) index)
      (lists.flatMap (writeOptional fun list => encodeScalingList 8 8 list.toList) ++ chunk)
      () := by
  induction lists generalizing index with
  | nil => simpa using hmore
  | cons list lists ih =>
    have hcount : (list :: lists).length + more = lists.length + more + 1 := by
      simp only [List.length_cons]
      omega
    have hfirst : (if index < 6 then 16 else 64) = size := hsize 0 (by simp)
    have hrest := ih (index + 1)
      (by
        intro i hi
        have := hsize (i + 1) (by simpa using hi)
        rwa [show index + 1 + i = index + (i + 1) by omega])
      (by rwa [show index + 1 + lists.length = index + (list :: lists).length by
        simp only [List.length_cons]; omega])
    rw [hcount, List.flatMap_cons, List.append_assoc]
    unfold skipScalingLists
    rw [hfirst]
    cases list with
    | none => exact (reads_bit false).bind hrest
    | some list =>
      refine (reads_bit true).bind ?_
      have hlist := reads_scalingList list.toList 8 8
      rw [Vector.length_toList] at hlist
      exact hlist.bind hrest

theorem reads_scalingMatrix (m : ScalingMatrix) :
    Reads (skipScalingLists (6 + m.lists8x8.length) 0) m.encode () := by
  have h8x8 : Reads (skipScalingLists m.lists8x8.length 6)
      (m.lists8x8.flatMap (writeOptional fun list => encodeScalingList 8 8 list.toList)) () := by
    have hend : Reads (skipScalingLists 0 (6 + m.lists8x8.length)) [] () := Reads.pure ()
    have h := reads_scalingLists m.lists8x8 6
      (by
        intro i _
        exact if_neg (by omega))
      hend
    simpa using h
  have h4x4 := reads_scalingLists m.lists4x4.toList 0
    (by
      intro i hi
      rw [Vector.length_toList] at hi
      exact if_pos (by omega))
    (by simpa using h8x8)
  rwa [Vector.length_toList] at h4x4

theorem depth_le (depth : Fin 7) : UInt32.ofNat depth ≤ 6 := by
  rw [UInt32.le_iff_toNat_le, UInt32.toNat_ofNat', Nat.mod_eq_of_lt (by omega)]
  show depth.val ≤ 6
  omega

theorem reads_depth (depth : Fin 7) :
    Reads readUe (expGolomb depth.val) (UInt32.ofNat depth) :=
  reads_ue (by omega)

theorem ofNat_depth (depth : Fin 7) : UInt32.ofNat depth + 8 = UInt32.ofNat (8 + depth) := by
  rw [Nat.add_comm, UInt32.ofNat_add]
  rfl

theorem scalingListCount {high : HighProfile} {m : ScalingMatrix}
    (hm : high.scalingMatrix = some m) :
    (if UInt32.ofNat high.chromaFormat.chromaFormatIdc = 3 then 12 else 8)
      = 6 + m.lists8x8.length := by
  have hlength := high.lists8x8_length m hm
  cases hformat : high.chromaFormat with
  | yuv444 separate =>
    rw [hformat] at hlength
    rw [hlength]
    rfl
  | _ =>
    rw [hformat] at hlength
    rw [hlength]
    rfl

theorem reads_highProfile (high : HighProfile) (sps : H264SpsInfo) :
    Reads (parseHighProfile sps) high.encode
      { sps with
        chromaFormatIdc := UInt32.ofNat high.chromaFormat.chromaFormatIdc
        bitDepthLuma := UInt32.ofNat (8 + high.bitDepthLumaMinus8)
        bitDepthChroma := UInt32.ofNat (8 + high.bitDepthChromaMinus8) } := by
  refine reads_chromaFormat high.chromaFormat ?_
  intro _
  refine (reads_depth _).bind ?_
  refine Reads.guard_bind (depth_le _) ?_
  refine (reads_depth _).bind ?_
  refine Reads.guard_bind (depth_le _) ?_
  refine (reads_bit _).bind ?_
  rw [← ofNat_depth, ← ofNat_depth]
  refine reads_writeOptional ?_ ?_
  · intro _
    exact Reads.pure _
  · intro m hm
    rw [scalingListCount hm]
    exact (reads_scalingMatrix m).bind_pure rfl

theorem reads_offsets (offsets : List SeValue) :
    Reads (skipSignedValues offsets.length) (offsets.flatMap fun offset => writeSe offset) () := by
  induction offsets with
  | nil => exact Reads.pure ()
  | cons offset offsets ih => exact (reads_writeSe offset).bind ih

theorem reads_picOrderCnt (poc : PicOrderCnt) : Reads skipPicOrderCnt poc.encode () := by
  cases poc with
  | type0 log2MaxPicOrderCntLsbMinus4 =>
    refine (reads_writeUe 0).bind ?_
    exact (reads_writeUe _).bind_pure rfl
  | type1 alwaysZero nonRefPic topToBottomField refFrame length_le =>
    have hcount : (UInt32.ofNat refFrame.length).toNat = refFrame.length := by
      rw [UInt32.toNat_ofNat', Nat.mod_eq_of_lt (by omega)]
    have hle : UInt32.ofNat refFrame.length ≤ 255 := by
      rw [UInt32.le_iff_toNat_le, hcount]
      exact length_le
    refine (reads_writeUe 1).bind ?_
    refine (reads_bit _).bind ?_
    refine (reads_writeSe _).bind ?_
    refine (reads_writeSe _).bind ?_
    refine (reads_ue (by omega)).bind ?_
    refine Reads.guard_bind hle ?_
    rw [hcount]
    exact reads_offsets refFrame
  | type2 => exact (reads_writeUe 2).bind_pure rfl

/-- What `readCrop` makes of the crop offsets. -/
def cropOffsets (part : Option FrameCropping) : UInt32 × UInt32 × UInt32 × UInt32 :=
  part.elim (0, 0, 0, 0) fun crop =>
    (UInt32.ofNat crop.frameCropLeftOffset, UInt32.ofNat crop.frameCropRightOffset,
      UInt32.ofNat crop.frameCropTopOffset, UInt32.ofNat crop.frameCropBottomOffset)

theorem reads_crop (part : Option FrameCropping) :
    Reads readCrop (writeOptional FrameCropping.encode part) (cropOffsets part) := by
  refine reads_writeOptional ?_ ?_
  · rintro rfl
    exact Reads.pure _
  · rintro crop rfl
    refine (reads_writeUe _).bind ?_
    refine (reads_writeUe _).bind ?_
    refine (reads_writeUe _).bind ?_
    exact (reads_writeUe _).bind_pure rfl

theorem reads_frameCoding {β : Type} {next : Bool → Bool → BitReader β} {chunk : List Bool}
    {value : β} (coding : FrameCoding)
    (hnext : ∀ flag, Reads (next coding.frameMbsOnlyFlag flag) chunk value) :
    Reads (do
        let frameMbsOnlyFlag ← readBit
        let flag ← if frameMbsOnlyFlag then pure false else readBit
        next frameMbsOnlyFlag flag)
      (coding.encode ++ chunk) value := by
  cases coding with
  | frames => exact (reads_bit true).bind (hnext false)
  | fields flag =>
    have hflag := (reads_bit flag).bind (hnext flag)
    exact (reads_bit false).bind hflag

section Cropping

variable (s : SpsSyntax)

theorem ofNat_fieldFactor :
    (if s.frameCoding.frameMbsOnlyFlag then 1 else 2) = UInt32.ofNat s.fieldFactor := by
  unfold SpsSyntax.fieldFactor
  cases s.frameCoding with
  | frames => rfl
  | fields flag => rfl

theorem ofNat_cropUnitX (format : ChromaFormat) :
    (if UInt32.ofNat format.chromaFormatIdc = 0 ∨ UInt32.ofNat format.chromaFormatIdc = 3
      then 1 else 2) = UInt32.ofNat format.cropUnitX := by
  cases format with
  | yuv444 separate => cases separate <;> rfl
  | _ => rfl

theorem ofNat_cropUnitY (format : ChromaFormat) :
    (if UInt32.ofNat format.chromaFormatIdc = 1 then 2 else 1)
      = UInt32.ofNat format.cropUnitY := by
  cases format with
  | yuv444 separate => cases separate <;> rfl
  | _ => rfl

theorem ofNat_cropWidth :
    ((cropOffsets s.frameCropping).1 + (cropOffsets s.frameCropping).2.1)
      * UInt32.ofNat s.chromaFormat.cropUnitX = UInt32.ofNat s.cropWidth := by
  unfold SpsSyntax.cropWidth cropOffsets
  cases s.frameCropping with
  | none => simp
  | some crop => simp [UInt32.ofNat_mul, UInt32.ofNat_add, UInt32.mul_comm]

theorem ofNat_cropHeight :
    ((cropOffsets s.frameCropping).2.2.1 + (cropOffsets s.frameCropping).2.2.2)
      * (UInt32.ofNat s.chromaFormat.cropUnitY * UInt32.ofNat s.fieldFactor)
        = UInt32.ofNat s.cropHeight := by
  unfold SpsSyntax.cropHeight cropOffsets
  cases s.frameCropping with
  | none => simp
  | some crop => simp [UInt32.ofNat_mul, UInt32.ofNat_add, UInt32.mul_comm]

theorem ofNat_codedWidth :
    (UInt32.ofNat s.picWidthInMbsMinus1 + 1) * 16 = UInt32.ofNat s.codedWidth := by
  rw [SpsSyntax.codedWidth, UInt32.ofNat_mul, UInt32.ofNat_add]
  rfl

theorem ofNat_codedHeight :
    (UInt32.ofNat s.picHeightInMapUnitsMinus1 + 1) * 16 * UInt32.ofNat s.fieldFactor
      = UInt32.ofNat s.codedHeight := by
  rw [SpsSyntax.codedHeight, Nat.mul_assoc, Nat.mul_comm, UInt32.ofNat_mul, UInt32.ofNat_mul,
    UInt32.ofNat_add]
  rfl

/-- No crop of a picture that fits 32 bits is rejected. -/
theorem not_ofNat_gt {cropped coded : Nat} (hle : cropped ≤ coded) (hfit : coded < 2 ^ 32) :
    ¬ UInt32.ofNat cropped > UInt32.ofNat coded := by
  rw [gt_iff_lt, UInt32.lt_iff_toNat_lt, UInt32.toNat_ofNat', UInt32.toNat_ofNat',
    Nat.mod_eq_of_lt hfit, Nat.mod_eq_of_lt (by omega)]
  omega

theorem reads_dimensions (sps : H264SpsInfo)
    (hformat : sps.chromaFormatIdc = UInt32.ofNat s.chromaFormat.chromaFormatIdc)
    (hwidth : s.codedWidth < 2 ^ 32) (hheight : s.codedHeight < 2 ^ 32)
    (hcropWidth : s.cropWidth ≤ s.codedWidth) (hcropHeight : s.cropHeight ≤ s.codedHeight) :
    Reads (parseDimensions sps) s.encodeDimensions
      { sps with
        frameMbsOnlyFlag := s.frameCoding.frameMbsOnlyFlag
        width := UInt32.ofNat (s.codedWidth - s.cropWidth)
        height := UInt32.ofNat (s.codedHeight - s.cropHeight) } := by
  refine (reads_writeUe _).bind ?_
  refine (reads_writeUe _).bind ?_
  refine reads_frameCoding s.frameCoding ?_
  intro _
  refine (reads_bit _).bind ?_
  have hcropX := ofNat_cropWidth s
  have hcropY := ofNat_cropHeight s
  rw [← List.append_nil (writeOptional FrameCropping.encode s.frameCropping)]
  refine (reads_crop s.frameCropping).bind ?_
  generalize cropOffsets s.frameCropping = offsets at hcropX hcropY ⊢
  obtain ⟨left, right, top, bottom⟩ := offsets
  simp only [hformat, ofNat_fieldFactor, ofNat_cropUnitX, ofNat_cropUnitY, ofNat_codedWidth,
    ofNat_codedHeight, hcropX, hcropY]
  refine Reads.guard_bind ?_ ?_
  · rintro (h | h)
    · exact not_ofNat_gt hcropWidth hwidth h
    · exact not_ofNat_gt hcropHeight hheight h
  · rw [UInt32.ofNat_sub hcropWidth, UInt32.ofNat_sub hcropHeight]
    exact Reads.pure _

end Cropping

/-! ## `seq_parameter_set_data` -/

theorem isHighProfile_eq (profileIdc : UInt8) :
    isHighProfile profileIdc = hasChromaFormatIdc profileIdc := by
  simp [isHighProfile, hasChromaFormatIdc, Bool.or_assoc, beq_eq_decide]

/-- What a high profile adds, and what is read behind it. -/
theorem reads_profile {β : Type} {next : H264SpsInfo → BitReader β} {chunk : List Bool}
    {value : β} (s : SpsSyntax) (sps : H264SpsInfo) (hprofile : sps.profileIdc = s.profileIdc)
    (hdefault : sps.chromaFormatIdc = 1 ∧ sps.bitDepthLuma = 8 ∧ sps.bitDepthChroma = 8)
    (hnext : Reads (next { sps with
        chromaFormatIdc := UInt32.ofNat s.chromaFormat.chromaFormatIdc
        bitDepthLuma :=
          s.highProfile.elim 8 fun high => UInt32.ofNat (8 + high.bitDepthLumaMinus8)
        bitDepthChroma :=
          s.highProfile.elim 8 fun high => UInt32.ofNat (8 + high.bitDepthChromaMinus8) })
      chunk value) :
    Reads (if isHighProfile sps.profileIdc then parseHighProfile sps >>= next
        else pure sps >>= next)
      (s.highProfile.elim [] HighProfile.encode ++ chunk) value := by
  have hpresent : isHighProfile sps.profileIdc = s.highProfile.isSome := by
    rw [hprofile, isHighProfile_eq, s.highProfile_isSome]
  unfold SpsSyntax.chromaFormat at hnext
  rw [hpresent]
  cases hhigh : s.highProfile with
  | none =>
    rw [hhigh] at hnext
    obtain ⟨hchroma, hluma, hdepth⟩ := hdefault
    cases sps
    simp only at hchroma hluma hdepth
    subst hchroma hluma hdepth
    exact (Reads.pure _).bind hnext
  | some high =>
    rw [hhigh] at hnext
    exact (reads_highProfile high sps).bind hnext

theorem reads_spsData (s : SpsSyntax)
    (hwidth : s.codedWidth < 2 ^ 32) (hheight : s.codedHeight < 2 ^ 32)
    (hcropWidth : s.cropWidth ≤ s.codedWidth) (hcropHeight : s.cropHeight ≤ s.codedHeight) :
    Reads parseSpsData s.encode s.info := by
  refine (reads_writeU (by omega) _).bind ?_
  refine (reads_writeU (by omega) _).bind ?_
  refine (reads_writeU (by omega) _).bind ?_
  refine (reads_writeUe _).bind ?_
  refine reads_profile s _ ?_ ?_ ?_
  · exact toUInt8_ofNat _
  · exact ⟨rfl, rfl, rfl⟩
  refine (reads_writeUe _).bind ?_
  refine (reads_picOrderCnt _).bind ?_
  refine (reads_writeUe _).bind ?_
  refine (reads_bit _).bind ?_
  refine Reads.bind (reads_dimensions s _ ?_ hwidth hheight hcropWidth hcropHeight) ?_
  · rfl
  rw [toUInt8_ofNat, toUInt8_ofNat]
  refine reads_writeOptional ?_ ?_
  · intro hnone
    unfold SpsSyntax.info SpsSyntax.colourDescription SpsSyntax.videoSignalType
      SpsSyntax.timingInfo SpsSyntax.nalHrd SpsSyntax.bitstreamRestriction
    rw [hnone]
    exact Reads.pure _
  · intro vui hsome
    unfold SpsSyntax.info SpsSyntax.colourDescription SpsSyntax.videoSignalType
      SpsSyntax.timingInfo SpsSyntax.nalHrd SpsSyntax.bitstreamRestriction
    rw [hsome]
    refine reads_vui vui _ ?_ ?_ ?_
    · exact ⟨rfl, rfl⟩
    · rfl
    · rfl

/-- A reader that reads the bits of an RBSP reads its bytes. -/
theorem read_packBits {α : Type} {reader : BitReader α} {bits : List Bool} {value : α}
    (h : Reads reader bits value) :
    reader.read (packBits (withTrailingBits bits)) = some value := by
  rw [BitReader.read, bitsOf_packBits (length_withTrailingBits bits), withTrailingBits, h]
  rfl

/-- `parse_h264_sps` returns what the syntax of the NAL unit says, for every syntax whose
pictures fit 32 bits and are not smaller than what is cropped off them. -/
theorem parseH264Sps_nal (s : SpsSyntax) (nalRefIdc : Fin 4)
    (hwidth : s.codedWidth < 2 ^ 32) (hheight : s.codedHeight < 2 ^ 32)
    (hcropWidth : s.cropWidth ≤ s.codedWidth) (hcropHeight : s.cropHeight ≤ s.codedHeight) :
    parseH264Sps (s.nal nalRefIdc) = some s.info := by
  have hrbsp : rbspFromNal (s.nal nalRefIdc) kH264NalSps
      = some (packBits (withTrailingBits s.encode)) :=
    rbspFromNal_encodeNal nalRefIdc 7 _
  rw [parseH264Sps, hrbsp]
  exact read_packBits (reads_spsData s hwidth hheight hcropWidth hcropHeight)

/-- An interlaced 1920x1080 4:2:2 stream with one flat scaling list and an HRD. -/
def interlacedSyntax : SpsSyntax where
  profileIdc := 122
  constraintFlags := 0
  levelIdc := 40
  seqParameterSetId := 0
  highProfile := some {
    chromaFormat := .yuv422
    bitDepthLumaMinus8 := 2
    bitDepthChromaMinus8 := 2
    qpprimeYZeroTransformBypassFlag := false
    scalingMatrix := some {
      lists4x4 := (Vector.replicate 6 none).set 0 (some (Vector.replicate 16 ⟨0, by decide⟩))
      lists8x8 := [none, none] }
    lists8x8_length := by
      rintro m ⟨⟩
      rfl }
  highProfile_isSome := rfl
  log2MaxFrameNumMinus4 := 4
  picOrderCnt := .type1 false ⟨-1, by decide⟩ ⟨1, by decide⟩ [⟨2, by decide⟩] (by decide)
  maxNumRefFrames := 4
  gapsInFrameNumValueAllowedFlag := false
  picWidthInMbsMinus1 := 119
  picHeightInMapUnitsMinus1 := 33
  frameCoding := .fields true
  direct8x8InferenceFlag := true
  frameCropping := some ⟨0, 0, 0, 4⟩
  vui := some {
    aspectRatio := some (.extendedSar 1 1)
    overscanAppropriateFlag := some false
    videoSignalType := some ⟨5, false, some ⟨1, 1, 1⟩⟩
    chromaLocInfo := none
    timingInfo := some ⟨1001, 60000, true⟩
    nalHrd := some ⟨0, 0, ⟨1, 2, true⟩, [⟨3, 4, false⟩], by decide, 23, 23, 23, 24⟩
    vclHrd := none
    lowDelayHrdFlag := false
    picStructPresentFlag := true
    bitstreamRestriction := some ⟨true, 0, 0, 10, 10, 0, 4⟩ }

theorem parseH264Sps_interlacedSyntax :
    parseH264Sps (interlacedSyntax.nal 3) = some interlacedSyntax.info
      ∧ interlacedSyntax.info.width = 1920 ∧ interlacedSyntax.info.height = 1080 :=
  ⟨parseH264Sps_nal interlacedSyntax 3 (by decide) (by decide) (by decide) (by decide),
    by decide, by decide⟩

end Ipmx.H264
