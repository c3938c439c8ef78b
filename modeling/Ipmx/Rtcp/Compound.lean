/-
Ipmx.Rtcp.Compound — `make_ipmx_rtcp_compound` of `rtcp.cpp`.

The output vector is built by appending; each function here returns what its
part of the source appends, and the two length fields that the source patches
afterwards are patched here as well. The checks are made in the order of the
source, so the first one that fails names the error.
-/
import Ipmx.Lib.Check
import Ipmx.Lib.Text
import Ipmx.Rtp.Packet

namespace Ipmx.Rtcp

open Rtp
open Ipmx.Lib

def kIpmxCompressedVideoMediaInfoType : UInt16 := 0x0005
def kIpmxH264MediaInfoType : UInt16 := 0x000A

structure IpmxVideoMediaInfo where
  width : UInt32 := 0
  height : UInt32 := 0
  fpsNumerator : UInt32 := 0
  fpsDenominator : UInt32 := 1
  sampling : Bytes := ascii "YCbCr-4:2:0"
  range : Bytes := ascii "NARROW"
  colorimetry : Bytes := ascii "BT709"
  transferCharacteristic : Bytes := ascii "SDR"
  bitDepth : UInt8 := 8
  measuredPixelClock : UInt64 := 0
  htotal : UInt16 := 0
  vtotal : UInt16 := 0
deriving DecidableEq, Repr

/-- `profile_level_id` is the three bytes of the source's array. -/
structure IpmxH264MediaInfo where
  profileLevelId : UInt8 × UInt8 × UInt8 := (0, 0, 0)
  packetizationMode : UInt8 := 1
  spropParameterSets : Bytes := []
  spropLevelParameterSets : Bytes := []
  extra : Bytes := []
deriving DecidableEq, Repr

structure IpmxRtcpSenderReport where
  ssrc : UInt32 := 0
  ptpSeconds : UInt32 := 0
  ptpNanoseconds : UInt32 := 0
  rtpTimestamp : UInt32 := 0
  packetCount : UInt32 := 0
  octetCount : UInt32 := 0
  blockVersion : UInt8 := 1
  tsRefclk : Bytes := []
  mediaClock : Bytes := ascii "direct=0"
  cname : Bytes := []
  video : IpmxVideoMediaInfo := {}
  h264 : IpmxH264MediaInfo := {}
deriving DecidableEq, Repr

/-! ## Appending and patching -/

/-- `append_fixed`: the value, filled up with zeros. -/
def appendFixed (value : Bytes) (size : Nat) (field : String) : Except String Bytes :=
  if value.length > size then
    .error ("RTCP " ++ field ++ " is too long")
  else
    .ok (value ++ List.replicate (size - value.length) 0)

/-- `patch_u16`. -/
def patchU16 (output : Bytes) (offset : Nat) (value : UInt16) : Bytes :=
  (output.set offset (value >>> 8).toUInt8).set (offset + 1) value.toUInt8

/-- The zeros appended until a multiple of four is reached. -/
def padding (size : Nat) : Bytes :=
  List.replicate ((4 - size % 4) % 4) 0

/-! ## The media info blocks -/

/-- `append_h264_media_info`. -/
def h264MediaInfo (info : IpmxH264MediaInfo) : Except String Bytes :=
  if info.spropParameterSets.length > 255 ∨ info.spropLevelParameterSets.length > 255
      ∨ info.extra.length > 255 then
    .error "RTCP H.264 variable field is too long"
  else
    let fieldMask : UInt32 := (0x00000003 : UInt32)
      ||| (if info.spropParameterSets ≠ [] then (1 : UInt32) <<< 6 else 0)
      ||| (if info.spropLevelParameterSets ≠ [] then (1 : UInt32) <<< 7 else 0)
      ||| (if info.extra ≠ [] then (1 : UInt32) <<< 8 else 0)
    let fields := writeU16 kIpmxH264MediaInfoType ++ writeU16 0 ++ writeU32 fieldMask
      ++ [info.profileLevelId.1, info.profileLevelId.2.1, info.profileLevelId.2.2,
          info.packetizationMode]
      ++ writeU16 0 ++ writeU16 0 ++ writeU32 0 ++ writeU32 0
      ++ [UInt8.ofNat info.spropParameterSets.length,
          UInt8.ofNat info.spropLevelParameterSets.length, UInt8.ofNat info.extra.length, 0]
      ++ info.spropParameterSets ++ info.spropLevelParameterSets ++ info.extra
    let block := fields ++ padding fields.length
    let blockWords := block.length / 4
    if blockWords = 0 ∨ blockWords - 1 > 65535 then
      .error "RTCP H.264 Media Info Block is too large"
    else
      .ok (patchU16 block 2 (UInt16.ofNat (blockWords - 1)))

/-- The pixel clock announced: the measured one, or the one computed from the dimensions. -/
def pixelsPerSecond (video : IpmxVideoMediaInfo) : UInt64 :=
  if video.measuredPixelClock ≠ 0 then
    video.measuredPixelClock
  else
    (video.width.toUInt64 * video.height.toUInt64 * video.fpsNumerator.toUInt64
      + (video.fpsDenominator / 2).toUInt64) / video.fpsDenominator.toUInt64

/-- The Compressed Video Media Info Block. -/
def videoMediaInfo (video : IpmxVideoMediaInfo) : Except String Bytes := do
  let sampling ← appendFixed video.sampling 16 "sampling"
  let range ← appendFixed video.range 12 "range"
  let colorimetry ← appendFixed video.colorimetry 20 "colorimetry"
  let transfer ← appendFixed video.transferCharacteristic 16 "TCS"
  rejectIf (video.width > 65535 ∨ video.height > 65535) "RTCP video dimensions are too large"
  return writeU16 kIpmxCompressedVideoMediaInfoType ++ writeU16 22 ++ sampling
    ++ [video.bitDepth, 0, 1, 1] ++ range ++ colorimetry ++ transfer
    ++ writeU16 video.width.toUInt16 ++ writeU16 video.height.toUInt16
    ++ writeU32 ((video.fpsNumerator <<< 10) ||| video.fpsDenominator)
    ++ writeU64 (pixelsPerSecond video)
    ++ writeU16 (if video.htotal ≠ 0 then video.htotal else video.width.toUInt16)
    ++ writeU16 (if video.vtotal ≠ 0 then video.vtotal else video.height.toUInt16)

/-- The IPMX Info Block, its length field still 0. -/
def ipmxInfoBlock (report : IpmxRtcpSenderReport) : Except String Bytes := do
  let tsRefclk ← appendFixed report.tsRefclk 64 "ts-refclk"
  let mediaClock ← appendFixed report.mediaClock 12 "mediaclk"
  let video ← videoMediaInfo report.video
  let h264 ← h264MediaInfo report.h264
  return writeU16 0x5831 ++ writeU16 0 ++ [report.blockVersion, 0, 0, 0] ++ tsRefclk
    ++ mediaClock ++ video ++ h264

/-! ## The compound -/

/-- The Sender Report up to the IPMX Info Block, its length field still 0. -/
def senderReportHeader (report : IpmxRtcpSenderReport) : Bytes :=
  [0x80, 200] ++ writeU16 0 ++ writeU32 report.ssrc ++ writeU32 report.ptpSeconds
    ++ writeU32 report.ptpNanoseconds ++ writeU32 report.rtpTimestamp
    ++ writeU32 report.packetCount ++ writeU32 report.octetCount

/-- The SDES packet with the CNAME. -/
def sdesPacket (report : IpmxRtcpSenderReport) : Except String Bytes :=
  if report.cname.length > 255 then
    .error "RTCP CNAME is too long"
  else
    let chunk := [0x81, 202] ++ writeU16 0 ++ writeU32 report.ssrc
      ++ [1, UInt8.ofNat report.cname.length] ++ report.cname ++ [0]
    let packet := chunk ++ padding chunk.length
    .ok (patchU16 packet 2 (UInt16.ofNat (packet.length / 4 - 1)))

/-- The guard at the start of `make_ipmx_rtcp_compound`. -/
def InvalidReport (report : IpmxRtcpSenderReport) : Prop :=
  report.tsRefclk = [] ∨ report.cname = [] ∨ report.video.width = 0 ∨ report.video.height = 0
    ∨ report.video.fpsNumerator = 0 ∨ report.video.fpsDenominator = 0
    ∨ report.video.fpsNumerator ≥ (1 : UInt32) <<< 22
    ∨ report.video.fpsDenominator ≥ (1 : UInt32) <<< 10
    ∨ report.ptpNanoseconds ≥ 1000000000 ∨ report.h264.profileLevelId = (0, 0, 0)

instance (report : IpmxRtcpSenderReport) : Decidable (InvalidReport report) :=
  inferInstanceAs (Decidable (_ ∨ _))

def makeIpmxRtcpCompound (report : IpmxRtcpSenderReport) : Except String Bytes := do
  rejectIf (InvalidReport report) "invalid IPMX RTCP sender report"
  let block ← ipmxInfoBlock report
  rejectIf (block.length % 4 ≠ 0) "internal IPMX Info Block alignment error"
  let output := senderReportHeader report ++ block
  let ipmxWords := block.length / 4
  let senderReportWords := output.length / 4
  rejectIf (ipmxWords - 1 > 65535 ∨ senderReportWords - 1 > 65535)
    "RTCP Sender Report is too large"
  let sdes ← sdesPacket report
  let patched := patchU16 output 30 (UInt16.ofNat (ipmxWords - 1))
  return patchU16 patched 2 (UInt16.ofNat (senderReportWords - 1)) ++ sdes

/-! ## Reading fields -/

/-- `read_u32`, 0 beyond the end. -/
def readU32 (input : Bytes) (offset : Nat) : UInt32 :=
  if h : offset + 4 > input.length then 0 else Rtp.readU32 input offset (by omega)

end Ipmx.Rtcp
