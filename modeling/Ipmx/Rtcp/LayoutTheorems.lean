/-
Ipmx.Rtcp.LayoutTheorems — `make_ipmx_rtcp_compound` returns the layout.

A report is accepted exactly if it is `Admissible`
(`makeIpmxRtcpCompound_eq_ok_iff`), and what is returned is `compoundBytes`.
-/
import Ipmx.Rtcp.CompoundTheorems
import Ipmx.Rtcp.Layout

namespace Ipmx.Rtcp

open Ipmx.Lib
open Rtp

/-! ## Lengths -/

theorem length_fixedField {value : Bytes} {size : Nat} (h : value.length ≤ size) :
    (fixedField value size).length = size := by
  rw [fixedField, List.length_append, List.length_replicate]
  omega

theorem length_padding (size : Nat) : (padding size).length = (4 - size % 4) % 4 := by
  simp [padding]

theorem length_videoBody_of_le {video : IpmxVideoMediaInfo} (hsampling : video.sampling.length ≤ 16)
    (hrange : video.range.length ≤ 12) (hcolorimetry : video.colorimetry.length ≤ 20)
    (htransfer : video.transferCharacteristic.length ≤ 16) : (videoBody video).length = 88 := by
  simp only [videoBody, List.length_append, length_fixedField hsampling,
    length_fixedField hrange, length_fixedField hcolorimetry, length_fixedField htransfer,
    length_writeU16, length_writeU32, length_writeU64, List.length_cons, List.length_nil]

theorem length_h264Fields (info : IpmxH264MediaInfo) :
    (h264Fields info).length = 24 + (info.spropParameterSets.length
      + (info.spropLevelParameterSets.length + info.extra.length)) := by
  simp [h264Fields, h264FixedFields]
  omega

theorem length_senderInfo (report : IpmxRtcpSenderReport) :
    (senderInfo report).length = 24 := rfl

theorem length_sdesBody (report : IpmxRtcpSenderReport) :
    (sdesBody report).length
      = 7 + report.cname.length + (4 - (11 + report.cname.length) % 4) % 4 := by
  simp only [sdesBody, sdesEnd, List.length_append, List.length_cons, List.length_nil,
    length_padding, length_writeU32]
  omega

theorem frameBody_h264 {info : IpmxH264MediaInfo} (hsprop : info.spropParameterSets.length ≤ 255)
    (hlevel : info.spropLevelParameterSets.length ≤ 255) (hextra : info.extra.length ≤ 255) :
    FrameBody (h264Body info) := by
  constructor
  · rw [h264Body, List.length_append, length_padding, length_h264Fields]
    omega
  · rw [h264Body, List.length_append, length_padding, length_h264Fields]
    omega

section Accepted

variable {report : IpmxRtcpSenderReport} (h : Admissible report)

include h

theorem length_videoBody : (videoBody report.video).length = 88 :=
  length_videoBody_of_le h.sampling h.range h.colorimetry h.transferCharacteristic

theorem length_infoFields : (infoFields report).length = 80 := by
  simp only [infoFields, List.length_append, length_fixedField h.tsRefclk,
    length_fixedField h.mediaClock, List.length_cons, List.length_nil]

theorem frameBody_video : FrameBody (videoBody report.video) := by
  constructor
  · rw [length_videoBody h]
  · rw [length_videoBody h]
    omega

theorem length_videoBlock : (videoBlock report.video).length = 92 := by
  rw [videoBlock, length_wordFrame rfl, length_videoBody h]

theorem frameBody_h264Block : FrameBody (h264Body report.h264) :=
  frameBody_h264 h.spropParameterSets h.spropLevelParameterSets h.extra

theorem length_h264Block_le : (h264Block report.h264).length ≤ 796 := by
  have hsprop := h.spropParameterSets
  have hlevel := h.spropLevelParameterSets
  have hextra := h.extra
  rw [h264Block, length_wordFrame rfl, h264Body, List.length_append, length_padding,
    length_h264Fields]
  omega

theorem frameBody_info :
    FrameBody (infoFields report ++ (videoBlock report.video ++ h264Block report.h264)) := by
  have hblock : (h264Block report.h264).length % 4 = 0 :=
    (frameBody_h264Block h).length_wordFrame rfl
  have hle := length_h264Block_le h
  constructor
  · simp only [List.length_append, length_infoFields h, length_videoBlock h]
    omega
  · simp only [List.length_append, length_infoFields h, length_videoBlock h]
    omega

theorem length_infoBlock :
    (infoBlock report).length = 176 + (h264Block report.h264).length := by
  rw [infoBlock, length_wordFrame rfl, List.length_append, List.length_append,
    length_infoFields h, length_videoBlock h]
  omega

theorem frameBody_senderReport : FrameBody (senderInfo report ++ infoBlock report) := by
  have hblock : (h264Block report.h264).length % 4 = 0 :=
    (frameBody_h264Block h).length_wordFrame rfl
  have hle := length_h264Block_le h
  constructor
  · rw [List.length_append, length_senderInfo, length_infoBlock h]
    omega
  · rw [List.length_append, length_senderInfo, length_infoBlock h]
    omega

theorem frameBody_sdes : FrameBody (sdesBody report) := by
  have hcname := h.cname
  constructor
  · rw [length_sdesBody]
    omega
  · rw [length_sdesBody]
    omega

end Accepted

/-! ## The parts of the source -/

theorem appendFixed_eq_ok {value output : Bytes} {size : Nat} {field : String} :
    appendFixed value size field = .ok output ↔
      value.length ≤ size ∧ output = fixedField value size := by
  unfold appendFixed fixedField
  split
  · rename_i hlong
    constructor
    · intro h
      cases h
    · intro h
      omega
  · rename_i hfits
    constructor
    · intro h
      cases h
      exact ⟨by omega, rfl⟩
    · rintro ⟨_, rfl⟩
      rfl

/-- A length field of zero, patched behind the tag of a frame. -/
theorem patchU16_frame {tag : Bytes} (htag : tag.length = 2) (body : Bytes) {words : UInt16}
    (hwords : words = UInt16.ofNat (body.length / 4)) (hbody : FrameBody body) :
    patchU16 (tag ++ (writeU16 0 ++ body)) 2 words = wordFrame tag body := by
  have hfits := hbody.fits
  have htoNat : words.toNat = body.length / 4 := by
    rw [hwords, UInt16.toNat_ofNat', Nat.mod_eq_of_lt hfits]
  obtain ⟨a, b, rfl⟩ := List.length_eq_two.mp htag
  rw [wordFrame, ← htoNat, ← writeU16_eq]
  rfl

/-- The end of `append_h264_media_info`, behind the fields. -/
def closeH264Block (fields : Bytes) : Except String Bytes :=
  let block := fields ++ padding fields.length
  let blockWords := block.length / 4
  if blockWords = 0 ∨ blockWords - 1 > 65535 then
    .error "RTCP H.264 Media Info Block is too large"
  else
    .ok (patchU16 block 2 (UInt16.ofNat (blockWords - 1)))

theorem h264MediaInfo_eq_close {info : IpmxH264MediaInfo}
    (h : ¬ (info.spropParameterSets.length > 255 ∨ info.spropLevelParameterSets.length > 255
      ∨ info.extra.length > 255)) :
    h264MediaInfo info
      = closeH264Block (writeU16 kIpmxH264MediaInfoType ++ (writeU16 0 ++ h264Fields info)) := by
  unfold h264MediaInfo
  rw [if_neg h]
  refine congrArg closeH264Block ?_
  simp [h264Fields, h264FixedFields, h264FieldMask]

theorem closeH264Block_eq {info : IpmxH264MediaInfo} (hbody : FrameBody (h264Body info)) :
    closeH264Block (writeU16 kIpmxH264MediaInfoType ++ (writeU16 0 ++ h264Fields info))
      = .ok (h264Block info) := by
  have haligned := hbody.aligned
  have hfits := hbody.fits
  have hlength : (writeU16 kIpmxH264MediaInfoType ++ (writeU16 0 ++ h264Fields info)).length
      = 4 + (h264Fields info).length := by
    simp
    omega
  have hpadding : padding (4 + (h264Fields info).length) = padding (h264Fields info).length := by
    unfold padding
    congr 1
    omega
  have hblock : writeU16 kIpmxH264MediaInfoType ++ (writeU16 0 ++ h264Fields info)
        ++ padding (h264Fields info).length
      = writeU16 kIpmxH264MediaInfoType ++ (writeU16 0 ++ h264Body info) := by
    simp [h264Body]
  have htotal : (writeU16 kIpmxH264MediaInfoType ++ (writeU16 0 ++ h264Body info)).length
      = 4 + (h264Body info).length := by
    simp
    omega
  unfold closeH264Block
  simp only [hlength, hpadding, hblock, htotal]
  rw [if_neg (by omega), patchU16_frame rfl _ (by congr 1; omega) hbody]
  rfl

theorem h264MediaInfo_eq_ok {info : IpmxH264MediaInfo} {output : Bytes} :
    h264MediaInfo info = .ok output ↔
      (info.spropParameterSets.length ≤ 255 ∧ info.spropLevelParameterSets.length ≤ 255
        ∧ info.extra.length ≤ 255) ∧ output = h264Block info := by
  by_cases hlong : info.spropParameterSets.length > 255 ∨ info.spropLevelParameterSets.length > 255
      ∨ info.extra.length > 255
  · rw [h264MediaInfo, if_pos hlong]
    constructor
    · intro h
      cases h
    · rintro ⟨⟨hsprop, hlevel, hextra⟩, _⟩
      omega
  · have hbody : FrameBody (h264Body info) :=
      frameBody_h264 (by omega) (by omega) (by omega)
    rw [h264MediaInfo_eq_close hlong, closeH264Block_eq hbody]
    constructor
    · intro h
      exact ⟨by omega, (Except.ok.inj h).symm⟩
    · rintro ⟨_, rfl⟩
      rfl

theorem videoMediaInfo_eq_ok {video : IpmxVideoMediaInfo} {output : Bytes} :
    videoMediaInfo video = .ok output ↔
      (video.sampling.length ≤ 16 ∧ video.range.length ≤ 12 ∧ video.colorimetry.length ≤ 20
        ∧ video.transferCharacteristic.length ≤ 16 ∧ video.width ≤ 65535 ∧ video.height ≤ 65535)
        ∧ output = videoBlock video := by
  have hbytes : ∀ h : (videoBody video).length = 88,
      writeU16 kIpmxCompressedVideoMediaInfoType ++ writeU16 22 ++ fixedField video.sampling 16
        ++ [video.bitDepth, 0, 1, 1] ++ fixedField video.range 12
        ++ fixedField video.colorimetry 20 ++ fixedField video.transferCharacteristic 16
        ++ writeU16 video.width.toUInt16 ++ writeU16 video.height.toUInt16
        ++ writeU32 ((video.fpsNumerator <<< 10) ||| video.fpsDenominator)
        ++ writeU64 (pixelsPerSecond video)
        ++ writeU16 (if video.htotal ≠ 0 then video.htotal else video.width.toUInt16)
        ++ writeU16 (if video.vtotal ≠ 0 then video.vtotal else video.height.toUInt16)
      = videoBlock video := by
    intro h
    rw [videoBlock, wordFrame, h, show 88 / 4 = (22 : UInt16).toNat from rfl, ← writeU16_eq]
    simp [videoBody]
  unfold videoMediaInfo
  constructor
  · intro h
    obtain ⟨sampling, hsampling, h⟩ := bind_eq_ok.mp h
    obtain ⟨range, hrange, h⟩ := bind_eq_ok.mp h
    obtain ⟨colorimetry, hcolorimetry, h⟩ := bind_eq_ok.mp h
    obtain ⟨transfer, htransfer, h⟩ := bind_eq_ok.mp h
    obtain ⟨hsize, h⟩ := rejectIf_bind_eq_ok.mp h
    obtain ⟨hsamplingLe, rfl⟩ := appendFixed_eq_ok.mp hsampling
    obtain ⟨hrangeLe, rfl⟩ := appendFixed_eq_ok.mp hrange
    obtain ⟨hcolorimetryLe, rfl⟩ := appendFixed_eq_ok.mp hcolorimetry
    obtain ⟨htransferLe, rfl⟩ := appendFixed_eq_ok.mp htransfer
    rw [not_or, UInt32.not_lt, UInt32.not_lt] at hsize
    refine ⟨⟨hsamplingLe, hrangeLe, hcolorimetryLe, htransferLe, hsize⟩, ?_⟩
    rw [← hbytes (length_videoBody_of_le hsamplingLe hrangeLe hcolorimetryLe htransferLe)]
    exact (Except.ok.inj h).symm
  · rintro ⟨⟨hsampling, hrange, hcolorimetry, htransfer, hsize⟩, rfl⟩
    refine bind_eq_ok.mpr ⟨_, appendFixed_eq_ok.mpr ⟨hsampling, rfl⟩, ?_⟩
    refine bind_eq_ok.mpr ⟨_, appendFixed_eq_ok.mpr ⟨hrange, rfl⟩, ?_⟩
    refine bind_eq_ok.mpr ⟨_, appendFixed_eq_ok.mpr ⟨hcolorimetry, rfl⟩, ?_⟩
    refine bind_eq_ok.mpr ⟨_, appendFixed_eq_ok.mpr ⟨htransfer, rfl⟩, ?_⟩
    refine rejectIf_bind_eq_ok.mpr ⟨?_, ?_⟩
    · rwa [not_or, UInt32.not_lt, UInt32.not_lt]
    · rw [← hbytes (length_videoBody_of_le hsampling hrange hcolorimetry htransfer)]
      rfl

/-! ## The whole compound -/

theorem ipmxInfoBlock_eq_ok {report : IpmxRtcpSenderReport} (h : Admissible report) :
    ∃ block, ipmxInfoBlock report = .ok block
      ∧ patchU16 block 2 (UInt16.ofNat (block.length / 4 - 1)) = infoBlock report
      ∧ block.length = (infoBlock report).length := by
  have hbody := frameBody_info h
  have haligned := hbody.aligned
  refine ⟨writeU16 0x5831 ++ (writeU16 0 ++ (infoFields report ++ (videoBlock report.video
    ++ h264Block report.h264))), ?_, ?_, ?_⟩
  · refine bind_eq_ok.mpr ⟨_, appendFixed_eq_ok.mpr ⟨h.tsRefclk, rfl⟩, ?_⟩
    refine bind_eq_ok.mpr ⟨_, appendFixed_eq_ok.mpr ⟨h.mediaClock, rfl⟩, ?_⟩
    refine bind_eq_ok.mpr ⟨_, videoMediaInfo_eq_ok.mpr ⟨⟨h.sampling, h.range, h.colorimetry,
      h.transferCharacteristic, h.width, h.height⟩, rfl⟩, ?_⟩
    refine bind_eq_ok.mpr ⟨_, h264MediaInfo_eq_ok.mpr ⟨⟨h.spropParameterSets,
      h.spropLevelParameterSets, h.extra⟩, rfl⟩, ?_⟩
    refine congrArg Except.ok ?_
    simp [infoFields]
  · refine patchU16_frame rfl _ ?_ hbody
    congr 1
    simp only [List.length_append, length_writeU16] at haligned ⊢
    omega
  · rw [infoBlock, length_wordFrame rfl]
    simp only [List.length_append, length_writeU16]
    omega

theorem sdesPacket_of_admissible {report : IpmxRtcpSenderReport} (h : Admissible report) :
    sdesPacket report = .ok (sdes report) := by
  have hcname := h.cname
  have hbody := frameBody_sdes h
  have haligned := hbody.aligned
  have hchunk : ([0x81, 202] ++ writeU16 0 ++ writeU32 report.ssrc
      ++ [1, UInt8.ofNat report.cname.length] ++ report.cname ++ [0]).length
      = 11 + report.cname.length := by
    simp
    omega
  have hpacket : [0x81, 202] ++ writeU16 0 ++ writeU32 report.ssrc
        ++ [1, UInt8.ofNat report.cname.length] ++ report.cname ++ [0]
        ++ padding (11 + report.cname.length)
      = [0x81, 202] ++ (writeU16 0 ++ sdesBody report) := by
    simp [sdesBody, sdesEnd]
  have htotal : ([0x81, 202] ++ (writeU16 0 ++ sdesBody report)).length
      = 4 + (sdesBody report).length := by
    simp
    omega
  unfold sdesPacket
  rw [if_neg (by omega)]
  simp only [hchunk, hpacket, htotal]
  rw [patchU16_frame rfl _ (by congr 1; omega) hbody]
  rfl

/-- An admissible report is laid out. -/
theorem makeIpmxRtcpCompound_of_admissible {report : IpmxRtcpSenderReport}
    (h : Admissible report) : makeIpmxRtcpCompound report = .ok (compoundBytes report) := by
  obtain ⟨block, hblock, hpatch, hlength⟩ := ipmxInfoBlock_eq_ok h
  have hinfo : (infoBlock report).length % 4 = 0 := (frameBody_info h).length_wordFrame rfl
  have hsmall := length_h264Block_le h
  have htotal := length_infoBlock h
  have hbody := frameBody_senderReport h
  have houtput : (senderReportHeader report ++ block).length = 28 + block.length := by simp
  have hheader : senderReportHeader report ++ infoBlock report
      = [0x80, 200] ++ (writeU16 0 ++ (senderInfo report ++ infoBlock report)) := by
    simp [senderReportHeader, senderInfo]
  refine rejectIf_bind_eq_ok.mpr ⟨h.valid, ?_⟩
  refine bind_eq_ok.mpr ⟨block, hblock, ?_⟩
  refine rejectIf_bind_eq_ok.mpr ⟨by omega, ?_⟩
  refine rejectIf_bind_eq_ok.mpr ⟨by omega, ?_⟩
  refine bind_eq_ok.mpr ⟨_, sdesPacket_of_admissible h, ?_⟩
  refine congrArg (fun front => Except.ok (front ++ sdes report)) ?_
  rw [patchU16_append_right _ _ _ (by simp), length_senderReportHeader, hpatch, hheader]
  refine patchU16_frame rfl _ ?_ hbody
  congr 1
  rw [houtput, List.length_append, length_senderInfo]
  omega

theorem admissible_of_makeIpmxRtcpCompound {report : IpmxRtcpSenderReport} {output : Bytes}
    (h : makeIpmxRtcpCompound report = .ok output) : Admissible report := by
  obtain ⟨hvalid, block, sdes, hblock, hsdes, _, _⟩ := makeIpmxRtcpCompound_eq h
  obtain ⟨_, hts, hblock⟩ := bind_eq_ok.mp hblock
  obtain ⟨_, hmc, hblock⟩ := bind_eq_ok.mp hblock
  obtain ⟨_, hvideo, hblock⟩ := bind_eq_ok.mp hblock
  obtain ⟨_, hh264, hblock⟩ := bind_eq_ok.mp hblock
  obtain ⟨⟨hsampling, hrange, hcolorimetry, htransfer, hwidth, hheight⟩, _⟩ :=
    videoMediaInfo_eq_ok.mp hvideo
  obtain ⟨⟨hsprop, hlevel, hextra⟩, _⟩ := h264MediaInfo_eq_ok.mp hh264
  have hcname : report.cname.length ≤ 255 := by
    unfold sdesPacket at hsdes
    split at hsdes
    · cases hsdes
    · omega
  exact
    { valid := hvalid
      tsRefclk := (appendFixed_eq_ok.mp hts).1
      mediaClock := (appendFixed_eq_ok.mp hmc).1
      sampling := hsampling
      range := hrange
      colorimetry := hcolorimetry
      transferCharacteristic := htransfer
      width := hwidth
      height := hheight
      spropParameterSets := hsprop
      spropLevelParameterSets := hlevel
      extra := hextra
      cname := hcname }

/-- `make_ipmx_rtcp_compound` accepts the admissible reports and returns their layout. -/
theorem makeIpmxRtcpCompound_eq_ok_iff {report : IpmxRtcpSenderReport} {output : Bytes} :
    makeIpmxRtcpCompound report = .ok output ↔
      Admissible report ∧ output = compoundBytes report := by
  constructor
  · intro h
    have hadmissible := admissible_of_makeIpmxRtcpCompound h
    rw [makeIpmxRtcpCompound_of_admissible hadmissible] at h
    exact ⟨hadmissible, (Except.ok.inj h).symm⟩
  · rintro ⟨hadmissible, rfl⟩
    exact makeIpmxRtcpCompound_of_admissible hadmissible

end Ipmx.Rtcp
