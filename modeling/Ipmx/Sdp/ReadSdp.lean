/-
Ipmx.Sdp.ReadSdp — `read_sdp_description` of `sdp.cpp`.

The file is its bytes. `std::stod` is a parameter: what it returns matters
only where an `a=framerate` line stands without an exact frame rate before it,
and nothing is assumed of it.
-/
import Ipmx.Sdp.MakeSdp

namespace Ipmx.Sdp

open H264
open Ipmx.Lib

/-- What the source sets before it reads the first line: nothing of a received description
comes from the defaults of `SdpSettings` but its group, port, payload type and source. -/
def unreadSettings : SdpSettings where
  width := 0
  height := 0
  fpsNumerator := 0
  fpsDenominator := 0
  targetBitrateKbps := 0
  maximumIpBitrateKbps := 0
  maximumUdpBytes := 0
  mediaClock := []

structure SdpDescription where
  settings : SdpSettings
  sps : NalUnit := []
  pps : NalUnit := []
  rtcpPort : Option UInt16 := none
  framesizeWidth : Option UInt32 := none
  framesizeHeight : Option UInt32 := none
  framesizePayloadType : Option UInt8 := none
  fmtpWidth : Option UInt32 := none
  fmtpHeight : Option UInt32 := none
  rtpEncoding : Bytes := []
  rtpClockRate : UInt32 := 0
  rtpmapPayloadType : Option UInt8 := none
  fmtpPayloadType : Option UInt8 := none
  trafficProfile : Bytes := []
  sampling : Bytes := []
  colorimetry : Bytes := []
  transferCharacteristic : Bytes := []
  range : Bytes := []
  profileLevelId : Bytes := []
  depth : Option UInt8 := none
  packetizationMode : Option UInt8 := none
  exactFrameRateSeen : Bool := false
  ipmx : Bool := false
  mediaSeen : Bool := false
  bitrateSeen : Bool := false
  fmtpSeen : Bool := false
deriving DecidableEq, Repr

/-! ## Integers of the fields -/

def parseUInt8 (text : Bytes) (field : String) : Except String UInt8 :=
  UInt8.ofNat <$> parseInteger 255 text field

def parseUInt16 (text : Bytes) (field : String) : Except String UInt16 :=
  UInt16.ofNat <$> parseInteger 65535 text field

def parseUInt32 (text : Bytes) (field : String) : Except String UInt32 :=
  UInt32.ofNat <$> parseInteger 4294967295 text field

/-! ## `parse_fmtp` -/

/-- The map of `parse_fmtp`; the value assigned last is in front. -/
abbrev FmtpValues := List (Bytes × Bytes)

/-- One round of the loop, on the text between two semicolons. -/
def parseFmtpToken (values : FmtpValues) (text : Bytes) : FmtpValues :=
  let token := trim text
  if token = [] then values
  else
    let (key, value) := cut (asciiByte '=') token
    (lowercase (trim key), match value with
      | none => []
      | some value => trim value) :: values

def parseFmtp (text : Bytes) : FmtpValues :=
  (text.splitOn (asciiByte ';')).foldl parseFmtpToken []

def FmtpValues.find (values : FmtpValues) (key : String) : Option Bytes :=
  values.lookup (ascii key)

/-! ## One line of each kind -/

def readConnectionLine (d : SdpDescription) (text : Bytes) : SdpDescription :=
  { d with settings := { d.settings with multicastGroup := (cut (asciiByte '/') text).1 } }

def readMediaLine (d : SdpDescription) (fields : Bytes) : Except String SdpDescription :=
  match extractUnsigned fields with
  | none => .error "invalid SDP media line"
  | some (port, fields) =>
    match extractString fields with
    | none => .error "invalid SDP media line"
    | some (transport, fields) =>
      match extractUnsigned fields with
      | none => .error "invalid SDP media line"
      | some (payloadType, _) =>
        if port > 65535 ∨ payloadType > 127 then .error "invalid SDP media line"
        else
          .ok { d with
            settings := { d.settings with
              port := UInt16.ofNat port, payloadType := UInt8.ofNat payloadType }
            mediaSeen := iequals transport (ascii "RTP/AVP") }

def readBitrateLine (d : SdpDescription) (text : Bytes) : Except String SdpDescription := do
  let maximumIpBitrateKbps ← parseUInt32 text "AS bitrate"
  rejectIf (maximumIpBitrateKbps = 0) "invalid SDP AS bitrate"
  return { d with settings := { d.settings with maximumIpBitrateKbps }, bitrateSeen := true }

def readRtcpLine (d : SdpDescription) (text : Bytes) : Except String SdpDescription := do
  let rtcpPort ← parseUInt16 (cut (asciiByte ' ') text).1 "RTCP port"
  return { d with rtcpPort := some rtcpPort }

def readRtpmapLine (d : SdpDescription) (text : Bytes) : Except String SdpDescription :=
  match cut (asciiByte ' ') text with
  | (_, none) => .error "invalid SDP rtpmap line"
  | (payloadType, some encoding) => do
    let rtpmapPayloadType ← parseUInt8 payloadType "RTP payload type"
    match cut (asciiByte '/') encoding with
    | (_, none) => throw "invalid SDP rtpmap encoding"
    | (rtpEncoding, some clockRate) =>
      let rtpClockRate ← parseUInt32 clockRate "RTP clock rate"
      return { d with rtpmapPayloadType := some rtpmapPayloadType, rtpEncoding, rtpClockRate }

/-- `parse_exact_frame_rate`. -/
def parseExactFrameRate (text : Bytes) (settings : SdpSettings) : Except String SdpSettings := do
  let (numerator, denominator) := cut (asciiByte '/') text
  let fpsNumerator ← parseUInt32 numerator "exactframerate"
  let fpsDenominator ← match denominator with
    | none => pure 1
    | some denominator => parseUInt32 denominator "exactframerate"
  rejectIf (fpsNumerator = 0 ∨ fpsDenominator = 0) "invalid SDP exactframerate"
  return { settings with fpsNumerator, fpsDenominator }

/-- A parameter that, when it is there, sets something. -/
def whenFound {α : Type} (value : Option Bytes) (set : Bytes → Except String α) (unset : α) :
    Except String α :=
  match value with
  | none => .ok unset
  | some value => set value

/-- The parameters of the picture: width, height, exact frame rate and MAXUDP. -/
def readFmtpFormat (d : SdpDescription) (values : FmtpValues) : Except String SdpDescription := do
  let d ← whenFound (values.find "width") (fun value => do
    let width ← parseUInt32 value "width"
    return { d with settings := { d.settings with width }, fmtpWidth := some width }) d
  let d ← whenFound (values.find "height") (fun value => do
    let height ← parseUInt32 value "height"
    return { d with settings := { d.settings with height }, fmtpHeight := some height }) d
  let d ← whenFound (values.find "exactframerate") (fun value => do
    let settings ← parseExactFrameRate value d.settings
    return { d with settings, exactFrameRateSeen := true }) d
  whenFound (values.find "maxudp") (fun value => do
    let maximumUdpBytes ← parseUInt16 value "MAXUDP"
    return { d with settings := { d.settings with maximumUdpBytes } }) d

/-- The parameters of the signal, which are kept as they are. -/
def readFmtpSignal (d : SdpDescription) (values : FmtpValues) : SdpDescription :=
  { d with
    trafficProfile := (values.find "tp").getD d.trafficProfile
    sampling := (values.find "sampling").getD d.sampling
    colorimetry := (values.find "colorimetry").getD d.colorimetry
    transferCharacteristic := (values.find "tcs").getD d.transferCharacteristic
    range := (values.find "range").getD d.range }

/-- `sprop-parameter-sets`. -/
def readParameterSets (d : SdpDescription) (value : Bytes) : Except String SdpDescription :=
  match cut (asciiByte ',') value with
  | (_, none) => .error "invalid SDP parameter sets"
  | (sps, some pps) =>
    match decodeBase64 sps, decodeBase64 pps with
    | some sps, some pps =>
      if (parseH264Sps sps).isNone ∨ (parseH264Pps pps).isNone then .error "invalid SDP SPS/PPS"
      else .ok { d with sps, pps }
    | _, _ => .error "invalid SDP SPS/PPS"

/-- The parameters of the encoding. -/
def readFmtpEncoding (d : SdpDescription) (values : FmtpValues) :
    Except String SdpDescription := do
  let d ← whenFound (values.find "depth") (fun value => do
    let depth ← parseUInt8 value "depth"
    return { d with depth := some depth }) d
  let d ← whenFound (values.find "packetization-mode") (fun value => do
    let packetizationMode ← parseUInt8 value "packetization-mode"
    return { d with packetizationMode := some packetizationMode }) d
  let d := { d with
    ipmx := (values.find "ipmx").isSome
    profileLevelId := (values.find "profile-level-id").getD d.profileLevelId }
  whenFound (values.find "sprop-parameter-sets") (readParameterSets d) d

def readFmtpLine (d : SdpDescription) (text : Bytes) : Except String SdpDescription :=
  match cut (asciiByte ' ') text with
  | (_, none) => .error "invalid SDP fmtp line"
  | (payloadType, some parameters) => do
    let fmtpPayloadType ← parseUInt8 payloadType "fmtp payload type"
    let values := parseFmtp parameters
    let d ← readFmtpFormat
      { d with fmtpPayloadType := some fmtpPayloadType, fmtpSeen := true } values
    readFmtpEncoding (readFmtpSignal d values) values

/-- A size that is set only where there is none yet. -/
def orIfZero (size other : UInt32) : UInt32 := if size = 0 then other else size

def readFramesizeLine (d : SdpDescription) (text : Bytes) : Except String SdpDescription :=
  match cut (asciiByte ' ') text with
  | (_, none) => .error "invalid SDP framesize line"
  | (payloadType, some size) =>
    match cut (asciiByte '-') size with
    | (_, none) => .error "invalid SDP framesize line"
    | (width, some height) => do
      let framesizePayloadType ← parseUInt8 payloadType "framesize payload type"
      let framesizeWidth ← parseUInt32 width "framesize width"
      let framesizeHeight ← parseUInt32 height "framesize height"
      return { d with
        framesizePayloadType := some framesizePayloadType
        framesizeWidth := some framesizeWidth
        framesizeHeight := some framesizeHeight
        settings := { d.settings with
          width := orIfZero d.settings.width framesizeWidth
          height := orIfZero d.settings.height framesizeHeight } }

/-- `a=framerate` without an exact frame rate before it; the frame rate is kept in
thousandths. -/
def readFramerateLine (stod : Bytes → Except String Float) (d : SdpDescription)
    (text : Bytes) : Except String SdpDescription := do
  let fps ← stod text
  rejectIf (fps ≤ 0 ∨ fps > 1000) "invalid SDP frame rate"
  return { d with
    settings := { d.settings with
      fpsNumerator := (fps * 1000).round.toUInt32, fpsDenominator := 1000 } }

/-! ## `read_sdp_description` -/

/-- One round of the loop over the lines. The fields of a line are cut from the text behind
its prefix, which holds none of their separators. -/
def readLine (stod : Bytes → Except String Float) (d : SdpDescription) (line : Bytes) :
    Except String SdpDescription :=
  if (ascii "c=IN IP4 ").isPrefixOf line then
    .ok (readConnectionLine d (line.drop 9))
  else if (ascii "m=video ").isPrefixOf line then
    readMediaLine d (line.drop 8)
  else if (ascii "b=AS:").isPrefixOf line then
    readBitrateLine d (line.drop 5)
  else if (ascii "a=rtcp:").isPrefixOf line then
    readRtcpLine d (line.drop 7)
  else if (ascii "a=rtpmap:").isPrefixOf line then
    readRtpmapLine d (line.drop 9)
  else if (ascii "a=fmtp:").isPrefixOf line then
    readFmtpLine d (line.drop 7)
  else if (ascii "a=framesize:").isPrefixOf line then
    readFramesizeLine d (line.drop 12)
  else if (ascii "a=framerate:").isPrefixOf line ∧ ¬ d.exactFrameRateSeen then
    readFramerateLine stod d (line.drop 12)
  else if (ascii "a=ts-refclk:").isPrefixOf line then
    .ok { d with settings := { d.settings with tsRefclk := line.drop 12 } }
  else if (ascii "a=mediaclk:").isPrefixOf line then
    .ok { d with settings := { d.settings with mediaClock := line.drop 11 } }
  else
    .ok d

/-- `line.pop_back()` of a carriage return. -/
def dropCarriageReturn (line : Bytes) : Bytes :=
  if line.getLast? = some (asciiByte '\r') then line.dropLast else line

/-- The lines `std::getline` reads: what stands behind the last line feed is a line only if
there is something. -/
def getLines (text : Bytes) : List Bytes :=
  let pieces := text.splitOn (asciiByte '\n')
  (if pieces.getLast? = some [] then pieces.dropLast else pieces).map dropCarriageReturn

def readSdpDescription (stod : Bytes → Except String Float) (text : Bytes) :
    Except String SdpDescription :=
  (getLines text).foldlM (readLine stod) { settings := unreadSettings }

end Ipmx.Sdp
