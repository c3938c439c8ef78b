/-
Ipmx.Sdp.MakeSdp — `make_sdp` of `sdp.cpp`, with its port and bit rate checks.

The text is a list of lines, each written with its line ending. The one
floating-point number, the frame rate of `a=framerate`, is a quotient of two
32-bit numbers: `FrameRate` computes the double it is rounded to and the three
decimals that double is printed with, both to nearest with ties to even.
-/
import Ipmx.H264.ParameterSets
import Ipmx.Lib.Word64
import Ipmx.Rtp.Packet
import Ipmx.Sdp.Base64
import Ipmx.Sdp.Text

namespace Ipmx.Sdp

open H264
open Ipmx.Lib
open Rtp

structure SdpSettings where
  multicastGroup : Bytes := ascii "239.255.42.42"
  port : UInt16 := 5004
  payloadType : UInt8 := 96
  width : UInt32 := 1280
  height : UInt32 := 720
  fpsNumerator : UInt32 := 60
  fpsDenominator : UInt32 := 1
  targetBitrateKbps : UInt32 := 4000
  maximumIpBitrateKbps : UInt32 := 4400
  maximumUdpBytes : UInt16 := 1200
  tsRefclk : Bytes := []
  mediaClock : Bytes := ascii "direct=0"
  sourceAddress : Bytes := ascii "127.0.0.1"
deriving DecidableEq, Repr

def SdpSettings.format (settings : SdpSettings) : H264StreamFormat where
  width := settings.width
  height := settings.height
  fpsNumerator := settings.fpsNumerator
  fpsDenominator := settings.fpsDenominator

/-! ## Ports and bit rate -/

def kMinimumIpmxMediaPort : UInt16 := 1026
def kMaximumIpmxMediaPort : UInt16 := 65534

def isValidIpmxMediaPort (port : UInt16) : Bool :=
  port ≥ kMinimumIpmxMediaPort && port ≤ kMaximumIpmxMediaPort && port &&& 1 = 0

def kRecommendedMinimumIpmxMediaPort : UInt16 := 5002

def isRecommendedIpmxMediaPort (port : UInt16) : Bool :=
  isValidIpmxMediaPort port && port ≥ kRecommendedMinimumIpmxMediaPort

def validateIpmxMediaPort (port : UInt16) : Except String Unit :=
  rejectIf (¬ isValidIpmxMediaPort port)
    "IPMX RTP media port must be even, greater than 1024, and leave media+1 for RTCP"

def reservedRtcpPort (mediaPort : UInt16) : Except String UInt16 := do
  validateIpmxMediaPort mediaPort
  return mediaPort + 1

/-- `minimum_ip_bitrate_kbps`; the sum of the tenth is the 32-bit one of the source. -/
def minimumIpBitrateKbps (elementaryBitrateKbps : UInt32) (maximumUdpBytes : UInt16) :
    Except String UInt32 := do
  rejectIf (elementaryBitrateKbps = 0 ∨ maximumUdpBytes ≤ 30
    ∨ maximumUdpBytes.toNat > kMaximumStandardUdpPayloadBytes) "invalid bitrate or MAXUDP"
  let fragmentOverhead := (elementaryBitrateKbps.toNat * 58 + maximumUdpBytes.toNat - 31)
    / (maximumUdpBytes.toNat - 30)
  let overhead := max 128 (max ((elementaryBitrateKbps + 9) / 10).toNat fragmentOverhead)
  let result := elementaryBitrateKbps.toNat + overhead
  rejectIf (result > 4294967295) "bitrate is too large"
  return UInt32.ofNat result

/-! ## The frame rate as a decimal fraction -/

namespace FrameRate

/-- `n / d` to the nearest whole number, a tie to the even one. -/
def roundHalfEven (n d : Nat) : Nat :=
  if 2 * (n % d) > d ∨ 2 * (n % d) = d ∧ n / d % 2 = 1 then n / d + 1 else n / d

/-- The negated exponent of the double nearest to `numerator / denominator`: with it the
quotient has 53 bits in front of the point. -/
def scale (numerator denominator : Nat) : Nat :=
  let k := 53 + denominator.log2 - numerator.log2
  if numerator * 2 ^ k / denominator ≥ 2 ^ 53 then k - 1 else k

/-- The mantissa of that double. -/
def mantissa (numerator denominator : Nat) : Nat :=
  roundHalfEven (numerator * 2 ^ scale numerator denominator) denominator

/-- `std::fixed << std::setprecision(3)` of that double. -/
def fixed (numerator denominator : Nat) : Bytes :=
  let thousandths :=
    roundHalfEven (mantissa numerator denominator * 1000) (2 ^ scale numerator denominator)
  decimal (thousandths / 1000) ++ ascii "." ++ decimal (thousandths / 100 % 10)
    ++ decimal (thousandths / 10 % 10) ++ decimal (thousandths % 10)

end FrameRate

/-! ## The lines -/

/-- An upper-case hexadecimal digit. -/
def hexDigit (value : UInt8) : UInt8 := if value < 10 then 48 + value else 55 + value

/-- Two hexadecimal digits, as `std::setw(2)` with `std::setfill('0')` writes a byte. -/
def hexByte (b : UInt8) : Bytes := [hexDigit (b >>> 4), hexDigit (b &&& 0x0F)]

def profileLevelId (sps : NalUnit) : Except String Bytes :=
  match sps with
  | header :: profile :: constraints :: level :: _ =>
    if header &&& 0x1F ≠ 7 then .error "invalid H.264 SPS"
    else .ok (hexByte profile ++ hexByte constraints ++ hexByte level)
  | _ => .error "invalid H.264 SPS"

def kCaptureTimeExtensionUri : Bytes :=
  ascii "urn:ipmx-windows:rtp-hdrext:capture-time-ns"

namespace SdpSettings

variable (settings : SdpSettings)

def payloadTypeText : Bytes := decimal settings.payloadType.toNat

def originLine : Bytes := ascii "o=- 1 1 IN IP4 " ++ settings.sourceAddress

def connectionLine : Bytes := ascii "c=IN IP4 " ++ settings.multicastGroup ++ ascii "/1"

def mediaLine : Bytes :=
  ascii "m=video " ++ decimal settings.port.toNat ++ ascii " RTP/AVP " ++ settings.payloadTypeText

def sourceFilterLine : Bytes :=
  ascii "a=source-filter: incl IN IP4 " ++ settings.multicastGroup ++ ascii " "
    ++ settings.sourceAddress

def bitrateLine : Bytes := ascii "b=AS:" ++ decimal settings.maximumIpBitrateKbps.toNat

def rtcpLine (rtcpPort : UInt16) : Bytes :=
  ascii "a=rtcp:" ++ decimal rtcpPort.toNat ++ ascii " IN IP4 " ++ settings.multicastGroup

def refclkLine : Bytes := ascii "a=ts-refclk:" ++ settings.tsRefclk

def mediaClockLine : Bytes := ascii "a=mediaclk:" ++ settings.mediaClock

def rtpmapLine : Bytes := ascii "a=rtpmap:" ++ settings.payloadTypeText ++ ascii " H264/90000"

/-- `measuredpixclk`, in 64-bit arithmetic. -/
def measuredPixelClock : Nat :=
  Word64.wrap (Word64.wrap (settings.width.toNat * settings.height.toNat)
    * settings.fpsNumerator.toNat) / settings.fpsDenominator.toNat

/-- The parameters of the fmtp line, which `;` separates. -/
def fmtpParameters (profile : Bytes) (sps pps : NalUnit) : List Bytes :=
  [ascii "width=" ++ decimal settings.width.toNat,
   ascii "height=" ++ decimal settings.height.toNat,
   ascii "depth=8",
   ascii "exactframerate=" ++ decimal settings.fpsNumerator.toNat ++ ascii "/"
     ++ decimal settings.fpsDenominator.toNat,
   ascii "sampling=YCbCr-4:2:0",
   ascii "colorimetry=BT709",
   ascii "TP=2110TPW",
   ascii "MAXUDP=" ++ decimal settings.maximumUdpBytes.toNat,
   ascii "TCS=SDR",
   ascii "RANGE=NARROW",
   ascii "measuredpixclk=" ++ decimal settings.measuredPixelClock,
   ascii "vtotal=" ++ decimal settings.height.toNat,
   ascii "htotal=" ++ decimal settings.width.toNat,
   ascii "IPMX",
   ascii "packetization-mode=1",
   ascii "profile-level-id=" ++ profile,
   ascii "sprop-parameter-sets=" ++ base64 sps ++ ascii "," ++ base64 pps]

def fmtpLine (profile : Bytes) (sps pps : NalUnit) : Bytes :=
  ascii "a=fmtp:" ++ settings.payloadTypeText ++ ascii " "
    ++ (ascii ";").intercalate (settings.fmtpParameters profile sps pps)

def framerateLine : Bytes :=
  ascii "a=framerate:"
    ++ FrameRate.fixed settings.fpsNumerator.toNat settings.fpsDenominator.toNat

def framesizeLine : Bytes :=
  ascii "a=framesize:" ++ settings.payloadTypeText ++ ascii " " ++ decimal settings.width.toNat
    ++ ascii "-" ++ decimal settings.height.toNat

def extmapLine : Bytes :=
  ascii "a=extmap:" ++ decimal kCaptureTimeExtensionId.toNat ++ ascii " "
    ++ kCaptureTimeExtensionUri

/-- The lines of the text, in the order `make_sdp` writes them. -/
def lines (rtcpPort : UInt16) (profile : Bytes) (sps pps : NalUnit) : List Bytes :=
  [ascii "v=0",
   settings.originLine,
   ascii "s=IPMX Windows H.264 loopback",
   settings.connectionLine,
   ascii "t=0 0",
   settings.mediaLine,
   settings.sourceFilterLine,
   settings.bitrateLine,
   settings.rtcpLine rtcpPort,
   settings.refclkLine,
   settings.mediaClockLine,
   settings.rtpmapLine,
   settings.fmtpLine profile sps pps,
   settings.framerateLine,
   settings.framesizeLine,
   extmapLine,
   ascii "a=sendonly"]

end SdpSettings

/-! ## `make_sdp` -/

/-- The text of some lines. -/
def unlines (lines : List Bytes) : Bytes := lines.flatMap (· ++ ascii "\r\n")

def makeSdp (settings : SdpSettings) (sps pps : NalUnit) : Except String Bytes := do
  rejectIf (settings.fpsNumerator = 0 ∨ settings.fpsDenominator = 0) "invalid SDP frame rate"
  rejectIf (settings.tsRefclk = [] ∨ settings.mediaClock = [] ∨ settings.sourceAddress = [])
    "SDP ts-refclk and mediaclk are required"
  validateIpmxMediaPort settings.port
  rejectIf (settings.maximumUdpBytes < 64
    ∨ settings.maximumUdpBytes.toNat > kMaximumStandardUdpPayloadBytes)
    ("SDP MAXUDP must be between 64 and " ++ toString kMaximumStandardUdpPayloadBytes ++ " bytes")
  let minimum ← minimumIpBitrateKbps settings.targetBitrateKbps settings.maximumUdpBytes
  rejectIf (settings.maximumIpBitrateKbps < minimum)
    "SDP IP bitrate must include encoded media and IP overhead"
  match parseH264Sps sps, parseH264Pps pps with
  | some parsedSps, some parsedPps =>
    rejectIf (parsedPps.spsId ≠ parsedSps.spsId) "invalid or mismatched H.264 SPS/PPS"
    rejectIf (validateIpmxSps parsedSps settings.format ≠ [])
      "H.264 SPS does not conform to the IPMX H.264 profile"
    let rtcpPort ← reservedRtcpPort settings.port
    let profile ← profileLevelId sps
    return unlines (settings.lines rtcpPort profile sps pps)
  | _, _ => throw "invalid or mismatched H.264 SPS/PPS"

end Ipmx.Sdp
