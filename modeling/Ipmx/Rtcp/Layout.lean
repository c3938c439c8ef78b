/-
Ipmx.Rtcp.Layout — the bytes of a compound packet, with every length field in
its place.

`make_ipmx_rtcp_compound` appends fields and patches length fields afterwards.
Here the Sender Report, the IPMX Info Block, the two media info blocks and the
SDES packet are frames of 32-bit words around their bodies. `LayoutTheorems`
shows that the two are the same bytes for every report the source accepts.
-/
import Ipmx.Lib.WordFrame
import Ipmx.Rtcp.Compound

namespace Ipmx.Rtcp

open Ipmx.Lib
open Rtp

/-- A text in a field of a fixed size. -/
def fixedField (value : Bytes) (size : Nat) : Bytes :=
  value ++ List.replicate (size - value.length) 0

/-! ## The media info blocks -/

/-- The Compressed Video Media Info Block behind its length field. -/
def videoBody (video : IpmxVideoMediaInfo) : Bytes :=
  fixedField video.sampling 16 ++ ([video.bitDepth, 0, 1, 1]
    ++ (fixedField video.range 12 ++ (fixedField video.colorimetry 20
    ++ (fixedField video.transferCharacteristic 16 ++ (writeU16 video.width.toUInt16
    ++ (writeU16 video.height.toUInt16
    ++ (writeU32 ((video.fpsNumerator <<< 10) ||| video.fpsDenominator)
    ++ (writeU64 (pixelsPerSecond video)
    ++ (writeU16 (if video.htotal ≠ 0 then video.htotal else video.width.toUInt16)
    ++ writeU16 (if video.vtotal ≠ 0 then video.vtotal else video.height.toUInt16))))))))))

def videoBlock (video : IpmxVideoMediaInfo) : Bytes :=
  wordFrame (writeU16 kIpmxCompressedVideoMediaInfoType) (videoBody video)

def h264FieldMask (info : IpmxH264MediaInfo) : UInt32 :=
  (0x00000003 : UInt32)
    ||| (if info.spropParameterSets ≠ [] then (1 : UInt32) <<< 6 else 0)
    ||| (if info.spropLevelParameterSets ≠ [] then (1 : UInt32) <<< 7 else 0)
    ||| (if info.extra ≠ [] then (1 : UInt32) <<< 8 else 0)

/-- The fields of the H.264 block that have a fixed size: 24 bytes. -/
def h264FixedFields (info : IpmxH264MediaInfo) : Bytes :=
  writeU32 (h264FieldMask info) ++ ([info.profileLevelId.1, info.profileLevelId.2.1,
      info.profileLevelId.2.2, info.packetizationMode]
    ++ (writeU16 0 ++ (writeU16 0 ++ (writeU32 0 ++ (writeU32 0
    ++ [UInt8.ofNat info.spropParameterSets.length,
        UInt8.ofNat info.spropLevelParameterSets.length, UInt8.ofNat info.extra.length, 0])))))

/-- The H.264 Media Info Block behind its length field, without the padding. -/
def h264Fields (info : IpmxH264MediaInfo) : Bytes :=
  h264FixedFields info ++ (info.spropParameterSets
    ++ (info.spropLevelParameterSets ++ info.extra))

def h264Body (info : IpmxH264MediaInfo) : Bytes :=
  h264Fields info ++ padding (h264Fields info).length

def h264Block (info : IpmxH264MediaInfo) : Bytes :=
  wordFrame (writeU16 kIpmxH264MediaInfoType) (h264Body info)

/-! ## The compound -/

/-- The IPMX Info Block between its length field and its media info blocks. -/
def infoFields (report : IpmxRtcpSenderReport) : Bytes :=
  [report.blockVersion, 0, 0, 0] ++ (fixedField report.tsRefclk 64
    ++ fixedField report.mediaClock 12)

def infoBlock (report : IpmxRtcpSenderReport) : Bytes :=
  wordFrame (writeU16 0x5831)
    (infoFields report ++ (videoBlock report.video ++ h264Block report.h264))

/-- The Sender Report between its length field and the IPMX Info Block. -/
def senderInfo (report : IpmxRtcpSenderReport) : Bytes :=
  writeU32 report.ssrc ++ (writeU32 report.ptpSeconds ++ (writeU32 report.ptpNanoseconds
    ++ (writeU32 report.rtpTimestamp ++ (writeU32 report.packetCount
    ++ writeU32 report.octetCount))))

def senderReport (report : IpmxRtcpSenderReport) : Bytes :=
  wordFrame [0x80, 200] (senderInfo report ++ infoBlock report)

/-- The zeros behind the CNAME: the one that ends the chunk and its padding. -/
def sdesEnd (report : IpmxRtcpSenderReport) : Bytes :=
  0 :: padding (11 + report.cname.length)

def sdesBody (report : IpmxRtcpSenderReport) : Bytes :=
  writeU32 report.ssrc ++ ([1, UInt8.ofNat report.cname.length]
    ++ (report.cname ++ sdesEnd report))

def sdes (report : IpmxRtcpSenderReport) : Bytes :=
  wordFrame [0x81, 202] (sdesBody report)

def compoundBytes (report : IpmxRtcpSenderReport) : Bytes :=
  senderReport report ++ sdes report

/-! ## Which reports are accepted -/

/-- Every check of `make_ipmx_rtcp_compound` that a report can fail. -/
structure Admissible (report : IpmxRtcpSenderReport) : Prop where
  valid : ¬ InvalidReport report
  tsRefclk : report.tsRefclk.length ≤ 64
  mediaClock : report.mediaClock.length ≤ 12
  sampling : report.video.sampling.length ≤ 16
  range : report.video.range.length ≤ 12
  colorimetry : report.video.colorimetry.length ≤ 20
  transferCharacteristic : report.video.transferCharacteristic.length ≤ 16
  width : report.video.width ≤ 65535
  height : report.video.height ≤ 65535
  spropParameterSets : report.h264.spropParameterSets.length ≤ 255
  spropLevelParameterSets : report.h264.spropLevelParameterSets.length ≤ 255
  extra : report.h264.extra.length ≤ 255
  cname : report.cname.length ≤ 255

end Ipmx.Rtcp
