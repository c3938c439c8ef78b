/-
Ipmx.Rtcp.InspectTheorems — a compound packet is well formed, and
`inspect_ipmx_rtcp_compound` reads it back.

The compound is two frames in a row, the first of which ends in frames again
(`Rtcp.Layout`), so each length field is that of a frame and the walk of the
inspector goes from frame to frame.
-/
import Ipmx.Rtcp.Inspect
import Ipmx.Rtcp.LayoutTheorems

namespace Ipmx.Rtcp

open Ipmx.Lib
open Rtp

/-! ## Frames at an offset -/

theorem readU16_append {packet front rest : Bytes} {value : UInt16} {offset : Nat}
    (hpacket : packet = front ++ (writeU16 value ++ rest)) (hoffset : offset = front.length) :
    readU16 packet offset = value := by
  have hfit : offset + 2 ≤ packet.length := by
    rw [hpacket, hoffset]
    simp
  rw [readU16, dif_neg (by omega)]
  exact Rtp.readU16_append hpacket hoffset hfit

theorem readU16_tag {packet front body rest : Bytes} {tag : UInt16} {offset : Nat}
    (hpacket : packet = front ++ (wordFrame (writeU16 tag) body ++ rest))
    (hoffset : offset = front.length) : readU16 packet offset = tag := by
  rw [wordFrame, List.append_assoc] at hpacket
  exact readU16_append hpacket hoffset

/-- The length the inspector takes from a length field is that of a frame beginning two bytes
in front of it. -/
theorem announcedBytes_eq_frameLength {packet front bytes : Bytes} {offset : Nat}
    (hpacket : packet = front ++ bytes) (hfit : 4 ≤ bytes.length)
    (hoffset : offset = front.length + 2) : announcedBytes packet offset = frameLength bytes := by
  subst hpacket hoffset
  rcases bytes with _ | ⟨tag₁, _ | ⟨tag₂, _ | ⟨high, _ | ⟨low, rest⟩⟩⟩⟩
  iterate 4 simp at hfit
  have hsize : (front ++ tag₁ :: tag₂ :: high :: low :: rest).length
      = front.length + (rest.length + 4) := by
    simp
  rw [announcedBytes, readU16, dif_neg (by omega),
    toNat_readU16 _ _ (by omega) (by omega) (by omega)]
  simp [frameLength, List.getElem_append_right, Nat.add_assoc]

/-- The length field of a frame announces the frame. -/
theorem announcedBytes_frame {packet front tag body rest : Bytes} {offset : Nat}
    (hpacket : packet = front ++ (wordFrame tag body ++ rest)) (htag : tag.length = 2)
    (hbody : FrameBody body) (hoffset : offset = front.length + 2) :
    announcedBytes packet offset = (wordFrame tag body).length := by
  have hfit : 4 ≤ (wordFrame tag body ++ rest).length := by
    rw [List.length_append, length_wordFrame htag]
    omega
  rw [announcedBytes_eq_frameLength hpacket hfit hoffset]
  exact frameLength_wordFrame htag hbody rest

/-- The walk of the inspector over one frame. -/
theorem inspectMediaBlocks_frame {packet front body rest : Bytes} {tag : UInt16}
    {offset senderReportBytes : Nat}
    (hpacket : packet = front ++ (wordFrame (writeU16 tag) body ++ rest))
    (hoffset : offset = front.length) (hbody : FrameBody body)
    (hfit : offset + (wordFrame (writeU16 tag) body).length ≤ senderReportBytes)
    (result : IpmxRtcpInspection) :
    inspectMediaBlocks packet senderReportBytes offset result
      = inspectMediaBlocks packet senderReportBytes
          (offset + (wordFrame (writeU16 tag) body).length)
          { result with
            compressedVideoInfo := result.compressedVideoInfo || tag == 0x0005
            h264Info := result.h264Info || tag == 0x000A } := by
  have hlength : (wordFrame (writeU16 tag) body).length = 4 + body.length := length_wordFrame rfl
  have hbytes : announcedBytes packet (offset + 2) = (wordFrame (writeU16 tag) body).length :=
    announcedBytes_frame hpacket rfl hbody (by rw [hoffset])
  have htag : readU16 packet offset = tag := readU16_tag hpacket hoffset
  rw [inspectMediaBlocks, if_pos (by omega), hbytes, if_neg (by omega), htag]

theorem inspectMediaBlocks_end (packet : Bytes) (senderReportBytes : Nat)
    (result : IpmxRtcpInspection) :
    inspectMediaBlocks packet senderReportBytes senderReportBytes result
      = (result, some senderReportBytes) := by
  rw [inspectMediaBlocks, if_neg (by omega)]

/-! ## Where the frames of a compound are -/

section Compound

variable (report : IpmxRtcpSenderReport)

/-- The 28 bytes in front of the IPMX Info Block. -/
def reportFront : Bytes :=
  [0x80, 200] ++ (BigEndian.encode 2 ((senderInfo report ++ infoBlock report).length / 4)
    ++ senderInfo report)

/-- The bytes in front of the media info blocks. -/
def mediaFront : Bytes :=
  reportFront report ++ (writeU16 0x5831 ++ (BigEndian.encode 2 ((infoFields report
    ++ (videoBlock report.video ++ h264Block report.h264)).length / 4) ++ infoFields report))

theorem compoundBytes_eq_info :
    compoundBytes report = reportFront report ++ (infoBlock report ++ sdes report) := by
  rw [compoundBytes, senderReport, wordFrame, reportFront]
  simp only [List.append_assoc]

theorem compoundBytes_eq_video :
    compoundBytes report
      = mediaFront report ++ (videoBlock report.video ++ (h264Block report.h264 ++ sdes report)) := by
  rw [compoundBytes_eq_info, infoBlock, wordFrame, mediaFront]
  simp only [List.append_assoc]

theorem compoundBytes_eq_h264 :
    compoundBytes report
      = (mediaFront report ++ videoBlock report.video) ++ (h264Block report.h264 ++ sdes report) := by
  rw [compoundBytes_eq_video, List.append_assoc]

theorem length_reportFront : (reportFront report).length = 28 := by
  simp only [reportFront, List.length_append, BigEndian.length_encode, length_senderInfo,
    List.length_cons, List.length_nil]

theorem length_senderReport :
    (senderReport report).length = 28 + (infoBlock report).length := by
  rw [senderReport, length_wordFrame rfl, List.length_append, length_senderInfo]
  omega

end Compound

section Accepted

variable {report : IpmxRtcpSenderReport} (h : Admissible report)

include h

theorem length_mediaFront : (mediaFront report).length = 112 := by
  simp only [mediaFront, List.length_append, BigEndian.length_encode, length_reportFront,
    length_infoFields h, length_writeU16]

/-- The two media info blocks end where the Sender Report does. -/
theorem length_mediaBlocks :
    112 + (videoBlock report.video).length + (h264Block report.h264).length
      = (senderReport report).length := by
  rw [length_senderReport, length_infoBlock h, length_videoBlock h]
  omega

theorem inspectMediaBlocks_compound (result : IpmxRtcpInspection) :
    inspectMediaBlocks (compoundBytes report) (senderReport report).length 112 result
      = ({ result with compressedVideoInfo := true, h264Info := true },
          some (senderReport report).length) := by
  have hmedia := length_mediaBlocks h
  have hfront := length_mediaFront h
  have hvideo : 112 + (wordFrame (writeU16 kIpmxCompressedVideoMediaInfoType)
      (videoBody report.video)).length ≤ (senderReport report).length := by
    show 112 + (videoBlock report.video).length ≤ _
    omega
  have hh264 : 112 + (videoBlock report.video).length + (wordFrame (writeU16 kIpmxH264MediaInfoType)
      (h264Body report.h264)).length ≤ (senderReport report).length := by
    show 112 + (videoBlock report.video).length + (h264Block report.h264).length ≤ _
    omega
  rw [inspectMediaBlocks_frame (compoundBytes_eq_video report) hfront.symm (frameBody_video h) hvideo]
  show inspectMediaBlocks _ _ (112 + (videoBlock report.video).length) _ = _
  rw [inspectMediaBlocks_frame (compoundBytes_eq_h264 report)
    (by rw [List.length_append, hfront]) (frameBody_h264Block h) hh264]
  show inspectMediaBlocks _ _ (112 + (videoBlock report.video).length
    + (h264Block report.h264).length) _ = _
  rw [hmedia, inspectMediaBlocks_end]
  simp [kIpmxCompressedVideoMediaInfoType, kIpmxH264MediaInfoType]

theorem inspectSdes_compound :
    inspectSdes (compoundBytes report) (senderReport report).length = true := by
  have hcname := h.cname
  have hget : ∀ k, (compoundBytes report).getD ((senderReport report).length + k) 0
      = (sdes report).getD k 0 := by
    intro k
    rw [compoundBytes, List.getD_eq_getElem?_getD, List.getElem?_append_right (by omega),
      Nat.add_sub_cancel_left, List.getD_eq_getElem?_getD]
  have hlength : (compoundBytes report).length
      = (senderReport report).length + (4 + (sdesBody report).length) := by
    rw [compoundBytes, List.length_append, sdes, length_wordFrame rfl]
  have hsize : (UInt8.ofNat report.cname.length).toNat = report.cname.length := by
    rw [UInt8.toNat_ofNat', Nat.mod_eq_of_lt (by omega)]
  have h0 := hget 0
  have h1 := hget 1
  have h8 := hget 8
  have h9 := hget 9
  rw [Nat.add_zero] at h0
  rw [length_sdesBody] at hlength
  unfold inspectSdes
  rw [h0, h1, h8, h9, if_pos ⟨by omega, show (0x81 : UInt8) >>> 6 = 2 by decide, rfl, rfl⟩]
  show decide (_ + 10 + (UInt8.ofNat report.cname.length).toNat ≤ _) = true
  rw [hsize, decide_eq_true_eq]
  omega

/-- The inspector finds everything in a compound. -/
theorem inspect_compound :
    inspectIpmxRtcpCompound (compoundBytes report) =
      { senderReport := true
        ipmxInfoBlock := true
        compressedVideoInfo := true
        h264Info := true
        sdesCname := true
        blockVersion := report.blockVersion
        rtpTimestamp := report.rtpTimestamp
        packetCount := report.packetCount
        octetCount := report.octetCount } := by
  obtain ⟨_, _, _, htimestamp, hpackets, hoctets⟩ :=
    makeIpmxRtcpCompound_fields (makeIpmxRtcpCompound_of_admissible h)
  have hmedia := length_mediaBlocks h
  have hreport : announcedBytes (compoundBytes report) 2 = (senderReport report).length :=
    @announcedBytes_frame _ [] _ _ _ _ rfl rfl (frameBody_senderReport h) rfl
  have hinfo : announcedBytes (compoundBytes report) 30 = (infoBlock report).length :=
    announcedBytes_frame (compoundBytes_eq_info report) rfl (frameBody_info h)
      (by rw [length_reportFront])
  have htag : readU16 (compoundBytes report) 28 = 0x5831 :=
    readU16_tag (compoundBytes_eq_info report) (length_reportFront report).symm
  have hlength : (compoundBytes report).length
      = (senderReport report).length + (sdes report).length := by
    rw [compoundBytes, List.length_append]
  have hsenderReport := length_senderReport report
  have h0 : (compoundBytes report).getD 0 0 = 0x80 := rfl
  have h1 : (compoundBytes report).getD 1 0 = 200 := rfl
  have h32 : (compoundBytes report).getD 32 0 = report.blockVersion := rfl
  have hblocks := length_infoBlock h
  have hlong : ¬ ((compoundBytes report).length < 112 ∨ (0x80 : UInt8) >>> 6 ≠ 2
      ∨ (200 : UInt8) ≠ 200) := by
    rintro (hshort | hversion | htype)
    · omega
    · exact hversion (by decide)
    · exact htype rfl
  unfold inspectIpmxRtcpCompound
  simp only [h0, h1, hreport, hinfo, htag, h32, htimestamp, hpackets, hoctets]
  rw [if_neg hlong, if_neg (by omega), if_neg (by decide), if_neg (by omega),
    inspectMediaBlocks_compound h]
  simp only
  rw [if_neg (by simp), inspectSdes_compound h]
  rfl

end Accepted

/-! ## Well-formed compounds -/

/-- The frames a compound consists of. -/
structure CompoundParts where
  senderReport : Bytes
  infoBlock : Bytes
  video : Bytes
  h264 : Bytes
  sdes : Bytes

/-- The compound of a report: what its length fields announce, and what is read back from it. -/
structure IsCompound (report : IpmxRtcpSenderReport) (output : Bytes) (parts : CompoundParts) :
    Prop where
  aligned : output.length % 4 = 0
  tiles : output = parts.senderReport ++ parts.sdes
  senderReport_type : output.getD 1 0 = 200
  senderReport_size : announcedBytes output 2 = parts.senderReport.length
  sdes_type : parts.sdes.getD 1 0 = 202
  sdes_size : announcedBytes output (parts.senderReport.length + 2) = parts.sdes.length
  infoBlock_end : parts.senderReport.drop 28 = parts.infoBlock
  infoBlock_tag : readU16 output 28 = 0x5831
  infoBlock_size : announcedBytes output 30 = parts.infoBlock.length
  media_tile : parts.infoBlock.drop 84 = parts.video ++ parts.h264
  video_type : readU16 output 112 = kIpmxCompressedVideoMediaInfoType
  video_size : announcedBytes output 114 = parts.video.length
  h264_type : readU16 output (112 + parts.video.length) = kIpmxH264MediaInfoType
  h264_size : announcedBytes output (112 + parts.video.length + 2) = parts.h264.length
  /-- The SDES chunk behind its SSRC: the CNAME item, and one zero or more up to the end. -/
  sdes_chunk : ∃ zeros : Nat, parts.sdes.drop 8 = [1, UInt8.ofNat report.cname.length]
    ++ (report.cname ++ List.replicate (zeros + 1) 0)
  inspection : inspectIpmxRtcpCompound output =
    { senderReport := true
      ipmxInfoBlock := true
      compressedVideoInfo := true
      h264Info := true
      sdesCname := true
      blockVersion := report.blockVersion
      rtpTimestamp := report.rtpTimestamp
      packetCount := report.packetCount
      octetCount := report.octetCount }

/-- Every compound that `make_ipmx_rtcp_compound` returns is well formed and read back. -/
theorem makeIpmxRtcpCompound_isCompound {report : IpmxRtcpSenderReport} {output : Bytes}
    (h : makeIpmxRtcpCompound report = .ok output) :
    ∃ parts : CompoundParts, IsCompound report output parts := by
  obtain ⟨hadmissible, rfl⟩ := makeIpmxRtcpCompound_eq_ok_iff.mp h
  have hsenderReport := frameBody_senderReport hadmissible
  have hinfo := frameBody_info hadmissible
  have hsdes := frameBody_sdes hadmissible
  have hfront := length_mediaFront hadmissible
  have hsecond : 112 + (videoBlock report.video).length
      = (mediaFront report ++ videoBlock report.video).length := by
    rw [List.length_append, hfront]
  refine ⟨⟨senderReport report, infoBlock report, videoBlock report.video,
    h264Block report.h264, sdes report⟩, ?_⟩
  exact
    { aligned := by
        have hfirst : (senderReport report).length % 4 = 0 := hsenderReport.length_wordFrame rfl
        have hlast : (sdes report).length % 4 = 0 := hsdes.length_wordFrame rfl
        rw [compoundBytes, List.length_append]
        omega
      tiles := rfl
      senderReport_type := rfl
      senderReport_size := @announcedBytes_frame _ [] _ _ _ _ rfl rfl hsenderReport rfl
      sdes_type := rfl
      sdes_size := @announcedBytes_frame _ (senderReport report) _ _ [] _
        (by rw [List.append_nil]; rfl) rfl hsdes rfl
      infoBlock_end := by
        rw [senderReport, wordFrame]
        rfl
      infoBlock_tag := readU16_tag (compoundBytes_eq_info report) (length_reportFront report).symm
      infoBlock_size := announcedBytes_frame (compoundBytes_eq_info report) rfl hinfo
        (by rw [length_reportFront])
      media_tile := by
        have hfields := length_infoFields hadmissible
        rw [infoBlock, wordFrame, ← List.append_assoc, ← List.append_assoc]
        exact List.drop_left' (by simp [hfields])
      video_type := readU16_tag (compoundBytes_eq_video report) hfront.symm
      video_size := announcedBytes_frame (compoundBytes_eq_video report) rfl
        (frameBody_video hadmissible) (by rw [hfront])
      h264_type := readU16_tag (compoundBytes_eq_h264 report) hsecond
      h264_size := announcedBytes_frame (compoundBytes_eq_h264 report) rfl
        (frameBody_h264Block hadmissible) (by rw [← hsecond])
      sdes_chunk := by
        refine ⟨(4 - (11 + report.cname.length) % 4) % 4, ?_⟩
        rw [List.replicate_succ]
        rfl
      inspection := inspect_compound hadmissible }

/-- The report of the byte-exact test of the source. -/
def goldenReport : IpmxRtcpSenderReport where
  ssrc := 0x11223344
  ptpSeconds := 0x01020304
  ptpNanoseconds := 0x05060708
  rtpTimestamp := 0x090A0B0C
  packetCount := 0x0D0E0F10
  octetCount := 0x11121314
  blockVersion := 7
  tsRefclk := ascii "t"
  mediaClock := ascii "m"
  cname := ascii "c"
  video :=
    { width := 16, height := 8, fpsNumerator := 1, fpsDenominator := 1,
      measuredPixelClock := 128, htotal := 20, vtotal := 10 }
  h264 := { profileLevelId := (0x64, 0x00, 0x20), spropParameterSets := ascii "Z2QAIA==,aKo=" }

theorem admissible_goldenReport : Admissible goldenReport := by
  constructor <;> decide

theorem makeIpmxRtcpCompound_isCompound_golden :
    ∃ parts : CompoundParts, IsCompound goldenReport (compoundBytes goldenReport) parts :=
  makeIpmxRtcpCompound_isCompound (makeIpmxRtcpCompound_of_admissible admissible_goldenReport)

end Ipmx.Rtcp
