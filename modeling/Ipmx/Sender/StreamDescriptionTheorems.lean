/-
Ipmx.Sender.StreamDescriptionTheorems — the SDP and the Sender Report describe
the same stream.

Both sides are brought to the parameters of the session: the SDP by reading its
lines, the report by splitting its bytes at the fields.
-/
import Ipmx.Rtcp.InspectTheorems
import Ipmx.Sdp.ReadStream
import Ipmx.Sender.Session
import Ipmx.Sender.StreamDescription

namespace Ipmx.Sender

open H264
open Ipmx.Lib
open Ipmx.Lib.BigEndian
open Rtcp
open Rtp
open Sdp

/-! ## The profile in hexadecimal -/

theorem readHexByte_hexByte :
    ∀ byte : UInt8, readHexByte (hexDigit (byte >>> 4)) (hexDigit (byte &&& 0x0F)) = some byte := by
  decide +kernel

theorem readProfileLevelId_hex (profile constraints level : UInt8) :
    readProfileLevelId (hexByte profile ++ hexByte constraints ++ hexByte level)
      = some (profile, constraints, level) := by
  simp [hexByte, readProfileLevelId, readHexByte_hexByte]

theorem readSprop_base64 (sps pps : NalUnit) :
    readSprop (Rtcp.base64 sps ++ (ascii "," ++ Rtcp.base64 pps)) = some (sps, pps) := by
  have hcut : cut (asciiByte ',') (Sdp.base64 sps ++ (ascii "," ++ Sdp.base64 pps))
      = (Sdp.base64 sps, some (Sdp.base64 pps)) :=
    cut_append (comma_not_mem_base64 sps) _
  rw [base64_eq, base64_eq, readSprop, hcut]
  simp [decodeBase64_base64]

/-! ## The fields of a compound packet -/

/-- The word of the rate, as the number it is. -/
theorem toNat_rateWord {numerator denominator : UInt32} (hnumerator : numerator.toNat < 4194304)
    (hdenominator : denominator.toNat < 1024) :
    ((numerator <<< 10) ||| denominator).toNat
      = numerator.toNat * 1024 + denominator.toNat := by
  have hshift : (numerator <<< 10).toNat = numerator.toNat <<< 10 := by
    rw [UInt32.toNat_shiftLeft]
    show numerator.toNat <<< 10 % 2 ^ 32 = numerator.toNat <<< 10
    rw [Nat.shiftLeft_eq]
    omega
  rw [UInt32.toNat_or, hshift, ← Nat.shiftLeft_add_eq_or_of_lt (i := 10) hdenominator,
    Nat.shiftLeft_eq]

/-- A 16-bit dimension is written whole. -/
theorem writeU16_toUInt16 {size : UInt32} (hsize : size ≤ 65535) :
    writeU16 size.toUInt16 = encode 2 size.toNat := by
  have hle : size.toNat ≤ 65535 := UInt32.le_iff_toNat_le.mp hsize
  rw [writeU16_eq, UInt32.toNat_toUInt16, Nat.mod_eq_of_lt (by omega)]

section Fields

variable {report : IpmxRtcpSenderReport} (h : Admissible report)

/-- What stands in front of the width in the compressed video block. -/
def widthFront (report : IpmxRtcpSenderReport) : Bytes :=
  mediaFront report ++ (writeU16 kIpmxCompressedVideoMediaInfoType
    ++ (encode 2 ((videoBody report.video).length / 4)
    ++ (fixedField report.video.sampling 16 ++ ([report.video.bitDepth, 0, 1, 1]
    ++ (fixedField report.video.range 12 ++ (fixedField report.video.colorimetry 20
    ++ fixedField report.video.transferCharacteristic 16))))))

theorem compoundBytes_eq_width (report : IpmxRtcpSenderReport) :
    ∃ rest, compoundBytes report = widthFront report ++ (writeU16 report.video.width.toUInt16
      ++ (writeU16 report.video.height.toUInt16
      ++ (writeU32 ((report.video.fpsNumerator <<< 10) ||| report.video.fpsDenominator)
      ++ rest))) := by
  rw [compoundBytes_eq_video, videoBlock, wordFrame, videoBody, widthFront, videoBody]
  simp only [List.append_assoc]
  exact ⟨_, rfl⟩

/-- What stands in front of the profile in the H.264 block. -/
def profileFront (report : IpmxRtcpSenderReport) : Bytes :=
  (mediaFront report ++ videoBlock report.video) ++ (writeU16 kIpmxH264MediaInfoType
    ++ (encode 2 ((h264Body report.h264).length / 4) ++ writeU32 (h264FieldMask report.h264)))

theorem compoundBytes_eq_profile (report : IpmxRtcpSenderReport) :
    ∃ rest, compoundBytes report = profileFront report ++ ([report.h264.profileLevelId.1,
        report.h264.profileLevelId.2.1, report.h264.profileLevelId.2.2,
        report.h264.packetizationMode]
      ++ ((writeU16 0 ++ (writeU16 0 ++ (writeU32 0 ++ writeU32 0)))
      ++ (encode 1 report.h264.spropParameterSets.length
      ++ ([UInt8.ofNat report.h264.spropLevelParameterSets.length,
        UInt8.ofNat report.h264.extra.length, 0]
      ++ (report.h264.spropParameterSets ++ (report.h264.spropLevelParameterSets
      ++ (report.h264.extra ++ rest))))))) := by
  have hlengths : ∀ first second third : Nat,
      [UInt8.ofNat first, UInt8.ofNat second, UInt8.ofNat third, 0]
        = encode 1 first ++ [UInt8.ofNat second, UInt8.ofNat third, 0] := by
    intro first second third
    simp [encode]
  refine ⟨padding (h264Fields report.h264).length ++ sdes report, ?_⟩
  have hblock : h264Block report.h264 = writeU16 kIpmxH264MediaInfoType
      ++ (encode 2 ((h264Body report.h264).length / 4)
      ++ (h264FixedFields report.h264 ++ (report.h264.spropParameterSets
      ++ (report.h264.spropLevelParameterSets ++ report.h264.extra))
      ++ padding (h264Fields report.h264).length)) := rfl
  rw [compoundBytes_eq_h264, hblock, h264FixedFields, hlengths, profileFront]
  simp only [List.append_assoc]

include h

theorem length_widthFront : (widthFront report).length = 184 := by
  simp only [widthFront, List.length_append, length_mediaFront h, length_encode, length_writeU16,
    length_fixedField h.sampling, length_fixedField h.range, length_fixedField h.colorimetry,
    length_fixedField h.transferCharacteristic, List.length_cons, List.length_nil]

theorem length_profileFront : (profileFront report).length = 212 := by
  simp only [profileFront, List.length_append, length_mediaFront h, length_videoBlock h,
    length_encode, length_writeU16, length_writeU32]

/-- The fields of the compressed video block. -/
theorem numberAt_video :
    numberAt (compoundBytes report) 112 2 = 0x0005
      ∧ numberAt (compoundBytes report) 184 2 = report.video.width.toNat
      ∧ numberAt (compoundBytes report) 186 2 = report.video.height.toNat
      ∧ numberAt (compoundBytes report) 188 4
        = report.video.fpsNumerator.toNat * 1024 + report.video.fpsDenominator.toNat := by
  have hvalid := h.valid
  simp only [InvalidReport, not_or, ge_iff_le, UInt32.not_le] at hvalid
  obtain ⟨_, _, _, _, _, _, hnumerator, hdenominator, _, _⟩ := hvalid
  have hnumerator : report.video.fpsNumerator.toNat < 4194304 := hnumerator
  have hdenominator : report.video.fpsDenominator.toNat < 1024 := hdenominator
  have hwide : report.video.width.toNat ≤ 65535 := h.width
  have hhigh : report.video.height.toNat ≤ 65535 := h.height
  have hfront := length_widthFront h
  obtain ⟨rest, hwidth⟩ := compoundBytes_eq_width report
  rw [writeU16_toUInt16 h.width, writeU16_toUInt16 h.height, writeU32_eq,
    toNat_rateWord hnumerator hdenominator] at hwidth
  have hheight := hwidth.trans (List.append_assoc _ _ _).symm
  have hrate := hheight.trans (List.append_assoc _ _ _).symm
  have htag := compoundBytes_eq_video report
  rw [videoBlock, wordFrame, writeU16_eq, List.append_assoc] at htag
  refine ⟨numberAt_append htag (length_mediaFront h) (by decide), ?_, ?_, ?_⟩
  · exact numberAt_append hwidth hfront (by omega)
  · exact numberAt_append hheight (by simp [hfront]) (by omega)
  · exact numberAt_append hrate (by simp [hfront]) (by omega)

/-- The fields of the H.264 block. -/
theorem slice_h264 :
    numberAt (compoundBytes report) 204 2 = 0x000A
      ∧ slice (compoundBytes report) 212 4 = [report.h264.profileLevelId.1,
        report.h264.profileLevelId.2.1, report.h264.profileLevelId.2.2,
        report.h264.packetizationMode]
      ∧ slice (compoundBytes report) 232 (numberAt (compoundBytes report) 228 1)
        = report.h264.spropParameterSets := by
  have hlength := h.spropParameterSets
  have hfront := length_profileFront h
  obtain ⟨rest, hprofile⟩ := compoundBytes_eq_profile report
  have hzeros := hprofile.trans (List.append_assoc _ _ _).symm
  have hsize := hzeros.trans (List.append_assoc _ _ _).symm
  have hothers := hsize.trans (List.append_assoc _ _ _).symm
  have hsprop := hothers.trans (List.append_assoc _ _ _).symm
  have htag := compoundBytes_eq_h264 report
  rw [h264Block, wordFrame, writeU16_eq, List.append_assoc (encode 2 _)] at htag
  have hoffset : (mediaFront report ++ videoBlock report.video).length = 204 := by
    rw [List.length_append, length_mediaFront h, length_videoBlock h]
  have h228 : numberAt (compoundBytes report) 228 1 = report.h264.spropParameterSets.length :=
    numberAt_append hsize (by simp [hfront]) (by omega)
  rw [h228]
  refine ⟨numberAt_append htag hoffset (by decide), ?_, ?_⟩
  · exact slice_append hprofile hfront rfl
  · exact slice_append hsprop (by simp [hfront]) rfl

/-- **What the report says of the stream**, read at the offsets of its fields. -/
theorem ofCompound_compoundBytes {sps pps : NalUnit} (hsprop : report.h264.spropParameterSets
      = Rtcp.base64 sps ++ (ascii "," ++ Rtcp.base64 pps)) :
    StreamParameters.ofCompound (compoundBytes report) = some {
      width := report.video.width.toNat
      height := report.video.height.toNat
      fpsNumerator := report.video.fpsNumerator.toNat
      fpsDenominator := report.video.fpsDenominator.toNat
      profileLevelId := report.h264.profileLevelId
      packetizationMode := report.h264.packetizationMode
      sps, pps } := by
  obtain ⟨hvideoType, hwidth, hheight, hrate⟩ := numberAt_video h
  obtain ⟨hh264Type, hprofile, hsets⟩ := slice_h264 h
  have hdenominator : report.video.fpsDenominator.toNat < 1024 := by
    have hvalid := h.valid
    simp only [InvalidReport, not_or, ge_iff_le, UInt32.not_le] at hvalid
    exact hvalid.2.2.2.2.2.2.2.1
  have hsplit : (report.video.fpsNumerator.toNat * 1024
      + report.video.fpsDenominator.toNat) / 1024 = report.video.fpsNumerator.toNat := by
    omega
  have hrest : (report.video.fpsNumerator.toNat * 1024
      + report.video.fpsDenominator.toNat) % 1024 = report.video.fpsDenominator.toNat := by
    omega
  have hparameters : readSprop report.h264.spropParameterSets = some (sps, pps) := by
    rw [hsprop]
    exact readSprop_base64 sps pps
  simp only [StreamParameters.ofCompound, hvideoType, hh264Type, hsets, hparameters, hprofile,
    hwidth, hheight, hrate, hsplit, hrest]
  rfl

end Fields

/-! ## The same stream -/

/-- The SDP and the Sender Report of the same settings and parameter sets describe the same
stream, whatever else the report says. -/
theorem sdp_rtcp_sameStream (stod : Bytes → Except String Float) {settings : SdpSettings}
    {sps pps : NalUnit} {text packet : Bytes} {report : IpmxRtcpSenderReport}
    (hmake : makeSdp settings sps pps = .ok text)
    (hinfo : makeIpmxH264MediaInfo sps pps = .ok report.h264)
    (hvideo : report.video = {
      width := settings.width, height := settings.height
      fpsNumerator := settings.fpsNumerator, fpsDenominator := settings.fpsDenominator })
    (hrtcp : makeIpmxRtcpCompound report = .ok packet) (hlines : OnItsLines settings) :
    ∃ d stream, readSdpDescription stod text = .ok d
      ∧ StreamParameters.ofDescription d = some stream
      ∧ StreamParameters.ofCompound packet = some stream := by
  obtain ⟨hadmissible, rfl⟩ := makeIpmxRtcpCompound_eq_ok_iff.mp hrtcp
  obtain ⟨profile, haccepted, rfl⟩ := accepted_of_makeSdp hmake
  have hvalid := hadmissible.valid
  simp only [InvalidReport, not_or, hvideo] at hvalid
  obtain ⟨_, _, hwidth, hheight, _⟩ := hvalid
  obtain ⟨d, hread, htells⟩ := readSdpDescription_stream stod haccepted hlines hwidth hheight
  obtain ⟨header, p, c, l, rest, hsps, hheader, hh264⟩ := makeIpmxH264MediaInfo_eq_ok hinfo
  refine ⟨d, _, hread, ?_, ofCompound_compoundBytes hadmissible (by rw [hh264])⟩
  have hprofile : profile = hexByte p ++ hexByte c ++ hexByte l := by
    have heq := haccepted.profile_eq
    rw [hsps, profileLevelId, if_neg (not_not_intro hheader)] at heq
    exact (Except.ok.inj heq).symm
  have hlevel : readProfileLevelId d.profileLevelId = some (p, c, l) := by
    rw [htells.profileLevelId, hprofile]
    exact readProfileLevelId_hex p c l
  simp only [StreamParameters.ofDescription, hlevel, htells.packetizationMode]
  simp [htells.width, htells.height, htells.fpsNumerator, htells.fpsDenominator, htells.sps,
    htells.pps, hvideo, hh264]

/-- A report of the stream of the tests. -/
def referenceReport : IpmxRtcpSenderReport where
  tsRefclk := referenceSettings.tsRefclk
  cname := referenceSettings.tsRefclk ++ ascii "@ipmx-windows"
  video := { width := 1280, height := 720, fpsNumerator := 60, fpsDenominator := 1 }
  h264 :=
    { profileLevelId := (0x64, 0x00, 0x20)
      spropParameterSets := Rtcp.base64 referenceSps ++ (ascii "," ++ Rtcp.base64 referencePps) }

theorem sdp_rtcp_sameStream_reference :
    ∃ text packet d stream, makeSdp referenceSettings referenceSps referencePps = .ok text
      ∧ makeIpmxRtcpCompound referenceReport = .ok packet
      ∧ readSdpDescription (fun _ => .ok 60) text = .ok d
      ∧ StreamParameters.ofDescription d = some stream
      ∧ StreamParameters.ofCompound packet = some stream := by
  have hmake : (makeSdp referenceSettings referenceSps referencePps).toOption.isSome = true := by
    decide +kernel
  have hrtcp : (makeIpmxRtcpCompound referenceReport).toOption.isSome = true := by
    decide +kernel
  obtain ⟨text, hmake⟩ := exists_of_isSome hmake
  obtain ⟨packet, hrtcp⟩ := exists_of_isSome hrtcp
  have hlines : OnItsLines referenceSettings := by
    constructor <;> decide
  obtain ⟨d, stream, hread, hsdp, hreport⟩ :=
    sdp_rtcp_sameStream (fun _ => .ok 60) hmake rfl rfl hrtcp hlines
  exact ⟨text, packet, d, stream, hmake, hrtcp, hread, hsdp, hreport⟩

end Ipmx.Sender
