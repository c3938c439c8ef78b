/-
Ipmx.H264.Dimensions — the size `parse_h264_sps` returns and the size the
syntax elements prescribe.

`readSizeElements` reads what `parse_h264_sps` reads up to the crop offsets and
keeps the elements themselves. `exactWidth` and `exactHeight` are the cropped
size of ITU-T H.264 over the integers. The source computes the same formula in
32-bit words and compares the wrapped words, so the returned size is the exact
one modulo `2 ^ 32`, and it is the exact one just where that fits.
-/
import Ipmx.H264.ParameterSetsTheorems
import Ipmx.Lib.WrappedWord

namespace Ipmx.H264

open Ipmx.Lib

/-! ## The size of the syntax -/

/-- The syntax elements that say how large a picture is. -/
structure SizeElements where
  chromaFormatIdc : UInt32
  picWidthInMbsMinus1 : UInt32
  picHeightInMapUnitsMinus1 : UInt32
  frameMbsOnlyFlag : Bool
  cropLeft : UInt32
  cropRight : UInt32
  cropTop : UInt32
  cropBottom : UInt32
deriving DecidableEq, Repr

namespace SizeElements

/-- `2 - frame_mbs_only_flag`. -/
def fields (e : SizeElements) : Int := if e.frameMbsOnlyFlag then 1 else 2

/-- One sample, or `SubWidthC` of the chroma format. -/
def cropUnitX (e : SizeElements) : Int :=
  if e.chromaFormatIdc = 1 ∨ e.chromaFormatIdc = 2 then 2 else 1

/-- One line or `SubHeightC` lines, of each field. -/
def cropUnitY (e : SizeElements) : Int :=
  (if e.chromaFormatIdc = 1 then 2 else 1) * e.fields

def exactWidth (e : SizeElements) : Int :=
  (e.picWidthInMbsMinus1.toNat + 1) * 16 - (e.cropLeft.toNat + e.cropRight.toNat) * e.cropUnitX

def exactHeight (e : SizeElements) : Int :=
  (e.picHeightInMapUnitsMinus1.toNat + 1) * 16 * e.fields
    - (e.cropTop.toNat + e.cropBottom.toNat) * e.cropUnitY

/-- Something is left of the picture, and it fits the fields of `H264SpsInfo`. -/
def Fits (e : SizeElements) : Prop :=
  (1 ≤ e.exactWidth ∧ e.exactWidth < 2 ^ 32) ∧ 1 ≤ e.exactHeight ∧ e.exactHeight < 2 ^ 32

/-- `sps` has the size of the elements, and it is not empty. -/
def GivesSize (e : SizeElements) (sps : H264SpsInfo) : Prop :=
  ((sps.width.toNat : Int) = e.exactWidth ∧ (sps.height.toNat : Int) = e.exactHeight)
    ∧ 1 ≤ sps.width.toNat ∧ 1 ≤ sps.height.toNat

end SizeElements

/-- The coded size and the crop offsets, as they stand in the stream. -/
def readSize (chromaFormatIdc : UInt32) : BitReader SizeElements := do
  let picWidthInMbsMinus1 ← readUe
  let picHeightInMapUnitsMinus1 ← readUe
  let frameMbsOnlyFlag ← readBit
  let _ ← if frameMbsOnlyFlag then pure false else readBit
  let _ ← readBit
  let (cropLeft, cropRight, cropTop, cropBottom) ← readCrop
  return { chromaFormatIdc, picWidthInMbsMinus1, picHeightInMapUnitsMinus1, frameMbsOnlyFlag,
           cropLeft, cropRight, cropTop, cropBottom }

/-- The SPS up to its crop offsets. -/
def readSizeElements : BitReader SizeElements := do
  let profileIdc ← readBits 8
  let _ ← readBits 8
  let levelIdc ← readBits 8
  let spsId ← readUe
  let sps : H264SpsInfo :=
    { profileIdc := profileIdc.toUInt8, levelIdc := levelIdc.toUInt8, spsId }
  let sps ← if isHighProfile sps.profileIdc then parseHighProfile sps else pure sps
  let _ ← readUe
  skipPicOrderCnt
  let _ ← readUe
  let _ ← readBit
  readSize sps.chromaFormatIdc

/-- The size elements of an SPS NAL unit. -/
def sizeElements (nal : NalUnit) : Option SizeElements :=
  match rbspFromNal nal kH264NalSps with
  | none => none
  | some rbsp => readSizeElements.read rbsp

/-! ## The source computes the same formula modulo `2 ^ 32` -/

/-- The words of `sps` are the remainders of the exact size. -/
def WrapsSize (sps : H264SpsInfo) (e : SizeElements) : Prop :=
  Wraps sps.width e.exactWidth ∧ Wraps sps.height e.exactHeight

theorem ensuresChroma_highProfile (sps : H264SpsInfo) :
    Ensures (parseHighProfile sps) fun parsed => parsed.chromaFormatIdc ≤ 3 := by
  intro symbols parsed rest hrun
  unfold parseHighProfile at hrun
  obtain ⟨chroma, middle, _, hrun⟩ := bind_eq_some.mp hrun
  obtain ⟨_, _, hguard, hrun⟩ := bind_eq_some.mp hrun
  have hchroma := (guard_eq_some hguard).1
  suffices hspec : Ensures _ fun parsed : H264SpsInfo => parsed.chromaFormatIdc ≤ 3 from
    hspec _ _ _ hrun
  refine Ensures.optional fun _ => ?_
  refine Ensures.bind_right fun _ => Ensures.bind_right fun _ => ?_
  refine Ensures.bind_right fun _ => Ensures.bind_right fun _ => ?_
  refine Ensures.bind_right fun _ => Ensures.bind_right fun _ => ?_
  exact Ensures.skippable (Ensures.pure hchroma)

/-- Of the formats up to 4:4:4, the crop unit of the source is the prescribed one. -/
theorem wraps_cropUnitX {chroma : UInt32} (h : chroma ≤ 3) :
    Wraps (if chroma = 0 ∨ chroma = 3 then 1 else 2)
      (if chroma = 1 ∨ chroma = 2 then 2 else 1) := by
  have hcases : chroma = 0 ∨ chroma = 1 ∨ chroma = 2 ∨ chroma = 3 := by
    simp only [← UInt32.toNat_inj, UInt32.le_iff_toNat_le] at h ⊢
    have hle : chroma.toNat ≤ 3 := h
    show chroma.toNat = 0 ∨ chroma.toNat = 1 ∨ chroma.toNat = 2 ∨ chroma.toNat = 3
    omega
  rcases hcases with rfl | rfl | rfl | rfl
  · exact Wraps.toNat 1
  · exact Wraps.toNat 2
  · exact Wraps.toNat 2
  · exact Wraps.toNat 1

theorem wraps_ite (p : Prop) [Decidable p] (a b : UInt32) :
    Wraps (if p then a else b) (if p then (a.toNat : Int) else b.toNat) := by
  split
  · exact Wraps.toNat a
  · exact Wraps.toNat b

/-- The words of the source wrap the sizes of the elements it reads. -/
theorem follows_dimensions {sps : H264SpsInfo} (h : sps.chromaFormatIdc ≤ 3) :
    Follows (parseDimensions sps) (readSize sps.chromaFormatIdc) WrapsSize := by
  unfold parseDimensions readSize
  refine Follows.bind fun width => Follows.bind fun height => ?_
  refine Follows.bind fun frameMbsOnly => Follows.optional fun _ => ?_
  refine Follows.bind fun _ => Follows.bind fun ⟨cropLeft, cropRight, cropTop, cropBottom⟩ => ?_
  refine Follows.guard_left (Follows.pure ?_)
  have hfields := wraps_ite (frameMbsOnly = true) 1 2
  have hone := Wraps.toNat 1
  have hblock := Wraps.toNat 16
  constructor
  · refine Wraps.sub (((Wraps.toNat width).add hone).mul hblock) ?_
    exact ((Wraps.toNat cropLeft).add (Wraps.toNat cropRight)).mul (wraps_cropUnitX h)
  · refine Wraps.sub ((((Wraps.toNat height).add hone).mul hblock).mul hfields) ?_
    refine ((Wraps.toNat cropTop).add (Wraps.toNat cropBottom)).mul ?_
    exact (wraps_ite (sps.chromaFormatIdc = 1) 2 1).mul hfields

/-- The VUI behind the crop offsets leaves the size as it is. -/
theorem ensuresWraps_vui {sps : H264SpsInfo} :
    Ensures (parseVui sps) fun parsed => ∀ e, WrapsSize sps e → WrapsSize parsed e := by
  have hcoded : Ensures (parseVui sps) fun parsed => parsed.coded = sps.coded :=
    ensuresCoded_vui rfl
  refine hcoded.imp fun parsed hparsed e hwraps => ?_
  have hsize : (parsed.width, parsed.height) = (sps.width, sps.height) := congrArg Prod.snd hparsed
  obtain ⟨hwidth, hheight⟩ := Prod.mk.inj hsize
  rw [WrapsSize, hwidth, hheight]
  exact hwraps

/-- Where the source returns an SPS, the elements are read and the size wraps theirs. -/
theorem follows_spsData : Follows parseSpsData readSizeElements WrapsSize := by
  unfold parseSpsData readSizeElements
  refine Follows.bind fun profileIdc => Follows.bind fun _ => ?_
  refine Follows.bind fun levelIdc => Follows.bind fun spsId => ?_
  extract_lets start behind elements
  have hbehind : ∀ sps : H264SpsInfo, sps.chromaFormatIdc ≤ 3 →
      Follows (behind sps) (elements sps) WrapsSize := by
    intro sps hchroma
    refine Follows.bind fun _ => Follows.bind fun _ => ?_
    refine Follows.bind fun _ => Follows.bind fun _ => ?_
    refine (follows_dimensions hchroma).bind_left fun sized => ?_
    refine Ensures.bind_right fun present => ?_
    split
    · exact ensuresWraps_vui
    · exact Ensures.pure fun e hwraps => hwraps
  have hstart : Ensures (pure start : BitReader H264SpsInfo) fun sps => sps.chromaFormatIdc ≤ 3 :=
    Ensures.pure (show (1 : UInt32) ≤ 3 by decide)
  split
  · exact Follows.bind_ensures (ensuresChroma_highProfile start) hbehind
  · exact Follows.bind_ensures hstart hbehind

/-- The returned size is the remainder of the exact one, over all accepted byte strings. -/
theorem wrapsSize_of_parseH264Sps {nal : NalUnit} {sps : H264SpsInfo}
    (hparse : parseH264Sps nal = some sps) :
    ∃ e, sizeElements nal = some e ∧ WrapsSize sps e := by
  unfold parseH264Sps at hparse
  unfold sizeElements
  cases hrbsp : rbspFromNal nal kH264NalSps with
  | none =>
    rw [hrbsp] at hparse
    cases hparse
  | some rbsp =>
    rw [hrbsp] at hparse
    obtain ⟨⟨parsed, rest⟩, hrun, rfl⟩ := Option.map_eq_some_iff.mp hparse
    obtain ⟨e, left, helements, hwraps⟩ := follows_spsData _ _ _ hrun
    exact ⟨e, Option.map_eq_some_iff.mpr ⟨(e, left), helements, rfl⟩, hwraps⟩

/-- **The size is the exact one just where the exact one fits and is not empty.** -/
theorem parseH264Sps_givesSize_iff {nal : NalUnit} {sps : H264SpsInfo}
    (hparse : parseH264Sps nal = some sps) :
    ∃ e, sizeElements nal = some e ∧ (e.GivesSize sps ↔ e.Fits) := by
  obtain ⟨e, helements, hwidth, hheight⟩ := wrapsSize_of_parseH264Sps hparse
  refine ⟨e, helements, ?_⟩
  have hexactWidth := hwidth.toNat_eq_iff
  have hexactHeight := hheight.toNat_eq_iff
  rw [SizeElements.GivesSize, SizeElements.Fits]
  constructor
  · rintro ⟨⟨hw, hh⟩, hw1, hh1⟩
    obtain ⟨_, hwlt⟩ := hexactWidth.mp hw
    obtain ⟨_, hhlt⟩ := hexactHeight.mp hh
    omega
  · rintro ⟨⟨hw1, hwlt⟩, hh1, hhlt⟩
    have hw := hexactWidth.mpr ⟨by omega, hwlt⟩
    have hh := hexactHeight.mpr ⟨by omega, hhlt⟩
    omega

/-- What is parsed of a progressive Main profile SPS without VUI. -/
def mainInfo (width height : UInt32) : H264SpsInfo :=
  { profileIdc := 77, levelIdc := 30, width, height, frameMbsOnlyFlag := true }

/-- 1280 by 720, of whole macroblocks. -/
def plainSps : NalUnit := [0x67, 0x4D, 0x00, 0x1E, 0xF8, 0x0A, 0x00, 0xB7, 0x20]

theorem parseH264Sps_givesSize_plain :
    ∃ e, sizeElements plainSps = some e ∧ (e.GivesSize (mainInfo 1280 720) ↔ e.Fits) := by
  have hparse : parseH264Sps plainSps = some (mainInfo 1280 720) := by
    decide
  exact parseH264Sps_givesSize_iff hparse

/-- `2 ^ 28 + 80` macroblocks in a row, which are 1280 samples modulo `2 ^ 32`. -/
def wideSps : NalUnit :=
  [0x67, 0x4D, 0x00, 0x1E, 0xF8, 0x00, 0x00, 0x03, 0x00, 0x20, 0x00, 0x00, 0xA0, 0x0B, 0x72]

/-- One macroblock, of which all 16 columns are cropped. -/
def emptySps : NalUnit := [0x67, 0x4D, 0x00, 0x1E, 0xFB, 0xE2, 0x7A]

/-- A picture that is too wide is accepted as 1280 wide, and one of no width as it is. -/
theorem parseH264Sps_wrapped :
    (∃ e, parseH264Sps wideSps = some (mainInfo 1280 720) ∧ sizeElements wideSps = some e
      ∧ e.exactWidth = 2 ^ 32 + 1280 ∧ ¬ e.GivesSize (mainInfo 1280 720))
    ∧ ∃ e, parseH264Sps emptySps = some (mainInfo 0 16) ∧ sizeElements emptySps = some e
      ∧ e.exactWidth = 0 ∧ ¬ e.GivesSize (mainInfo 0 16) := by
  constructor
  · refine ⟨⟨1, 268435535, 44, true, 0, 0, 0, 0⟩, by decide +kernel, by decide +kernel,
      by decide, ?_⟩
    rintro ⟨⟨hwidth, _⟩, _⟩
    exact absurd hwidth (by decide)
  · refine ⟨⟨1, 0, 0, true, 8, 0, 0, 0⟩, by decide, by decide, by decide, ?_⟩
    rintro ⟨_, hpositive, _⟩
    exact absurd hpositive (by decide)

end Ipmx.H264
