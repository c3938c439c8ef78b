/-
Ipmx.Sdp.LineTheorems — every line of `make_sdp` is read back.

An `Announcement` is what `make_sdp` has accepted. Its lines have names
(`LineKind`), and `LineKind.effect` is what reading the line of a name does to
a description: `readLine_text` proves it, line by line. The effects commute
(`LineKind.effect_comm`), which is why the order of the lines does not matter.
-/
import Ipmx.Sdp.TextTheorems

namespace Ipmx.Sdp

open H264
open Ipmx.Lib

/-- What `make_sdp` does not check: the texts stay on their lines, the group ends at its
slash, and the numbers are those a reader takes. -/
structure Announceable (settings : SdpSettings) : Prop where
  payloadType_le : settings.payloadType ≤ 127
  width_ne_zero : settings.width ≠ 0
  height_ne_zero : settings.height ≠ 0
  mediaClock_eq : settings.mediaClock = ascii "direct=0"
  slash_not_mem : asciiByte '/' ∉ settings.multicastGroup
  newline_not_mem_group : asciiByte '\n' ∉ settings.multicastGroup
  newline_not_mem_refclk : asciiByte '\n' ∉ settings.tsRefclk
  newline_not_mem_source : asciiByte '\n' ∉ settings.sourceAddress

/-- Settings and parameter sets behind the checks of `make_sdp`. -/
structure Announcement where
  settings : SdpSettings
  sps : NalUnit
  pps : NalUnit
  profile : Bytes
  announceable : Announceable settings
  numerator_ne_zero : settings.fpsNumerator ≠ 0
  denominator_ne_zero : settings.fpsDenominator ≠ 0
  refclk_ne_nil : settings.tsRefclk ≠ []
  port_valid : isValidIpmxMediaPort settings.port = true
  udp_ge : settings.maximumUdpBytes ≥ 64
  udp_le : settings.maximumUdpBytes.toNat ≤ Rtp.kMaximumStandardUdpPayloadBytes
  bitrate_ne_zero : settings.maximumIpBitrateKbps ≠ 0
  sps_conforms : ∃ parsed ∈ parseH264Sps sps, validateIpmxSps parsed settings.format = []
  pps_parsed : (parseH264Pps pps).isSome
  profile_eq : profileLevelId sps = .ok profile

/-- The lines of an announcement. -/
inductive LineKind
  | version | origin | session | connection | time | media | sourceFilter | bitrate | rtcp
  | refclk | mediaClock | rtpmap | fmtp | framerate | framesize | extmap | sendonly
deriving DecidableEq, Repr

namespace LineKind

/-- The lines in the order of `make_sdp`. -/
def all : List LineKind :=
  [version, origin, session, connection, time, media, sourceFilter, bitrate, rtcp, refclk,
   mediaClock, rtpmap, fmtp, framerate, framesize, extmap, sendonly]

def text (a : Announcement) : LineKind → Bytes
  | version => ascii "v=0"
  | origin => a.settings.originLine
  | session => ascii "s=IPMX Windows H.264 loopback"
  | connection => a.settings.connectionLine
  | time => ascii "t=0 0"
  | media => a.settings.mediaLine
  | sourceFilter => a.settings.sourceFilterLine
  | bitrate => a.settings.bitrateLine
  | rtcp => a.settings.rtcpLine (a.settings.port + 1)
  | refclk => a.settings.refclkLine
  | mediaClock => a.settings.mediaClockLine
  | rtpmap => a.settings.rtpmapLine
  | fmtp => a.settings.fmtpLine a.profile a.sps a.pps
  | framerate => a.settings.framerateLine
  | framesize => a.settings.framesizeLine
  | extmap => SdpSettings.extmapLine
  | sendonly => ascii "a=sendonly"

theorem lines_eq_map (a : Announcement) :
    a.settings.lines (a.settings.port + 1) a.profile a.sps a.pps = all.map (text a) := rfl

/-- What a line tells a description. -/
def effect (a : Announcement) (kind : LineKind) (d : SdpDescription) : SdpDescription :=
  match kind with
  | connection =>
    { d with settings := { d.settings with multicastGroup := a.settings.multicastGroup } }
  | media =>
    { d with
      settings := { d.settings with
        port := a.settings.port, payloadType := a.settings.payloadType }
      mediaSeen := true }
  | bitrate =>
    { d with
      settings := { d.settings with maximumIpBitrateKbps := a.settings.maximumIpBitrateKbps }
      bitrateSeen := true }
  | rtcp => { d with rtcpPort := some (a.settings.port + 1) }
  | refclk => { d with settings := { d.settings with tsRefclk := a.settings.tsRefclk } }
  | mediaClock => { d with settings := { d.settings with mediaClock := a.settings.mediaClock } }
  | rtpmap =>
    { d with
      rtpmapPayloadType := some a.settings.payloadType
      rtpEncoding := ascii "H264"
      rtpClockRate := 90000 }
  | fmtp =>
    { d with
      settings := { d.settings with
        width := a.settings.width
        height := a.settings.height
        fpsNumerator := a.settings.fpsNumerator
        fpsDenominator := a.settings.fpsDenominator
        maximumUdpBytes := a.settings.maximumUdpBytes }
      fmtpPayloadType := some a.settings.payloadType
      fmtpSeen := true
      fmtpWidth := some a.settings.width
      fmtpHeight := some a.settings.height
      exactFrameRateSeen := true
      trafficProfile := ascii "2110TPW"
      sampling := ascii "YCbCr-4:2:0"
      colorimetry := ascii "BT709"
      transferCharacteristic := ascii "SDR"
      range := ascii "NARROW"
      depth := some 8
      packetizationMode := some 1
      ipmx := true
      profileLevelId := a.profile
      sps := a.sps
      pps := a.pps }
  | framesize =>
    { d with
      settings := { d.settings with
        width := orIfZero d.settings.width a.settings.width
        height := orIfZero d.settings.height a.settings.height }
      framesizePayloadType := some a.settings.payloadType
      framesizeWidth := some a.settings.width
      framesizeHeight := some a.settings.height }
  | _ => d

theorem orIfZero_self (size : UInt32) : orIfZero size size = size := ite_self _

/-- **The lines do not depend on each other.** -/
theorem effect_comm (a : Announcement) (x y : LineKind) (d : SdpDescription) :
    effect a x (effect a y d) = effect a y (effect a x d) := by
  -- only two lines tell the same fields: the frame size gives way to the fmtp line
  cases x <;> cases y <;> first | rfl | simp only [effect, orIfZero_self]

end LineKind

/-! ## The reader of a line -/

section Dispatch

variable (stod : Bytes → Except String Float) (d : SdpDescription) (rest : Bytes)

theorem readLine_connection_eq :
    readLine stod d (ascii "c=IN IP4 " ++ rest) = .ok (readConnectionLine d rest) := rfl

theorem readLine_media_eq : readLine stod d (ascii "m=video " ++ rest) = readMediaLine d rest := rfl

theorem readLine_bitrate_eq : readLine stod d (ascii "b=AS:" ++ rest) = readBitrateLine d rest := rfl

theorem readLine_rtcp_eq : readLine stod d (ascii "a=rtcp:" ++ rest) = readRtcpLine d rest := rfl

theorem readLine_rtpmap_eq :
    readLine stod d (ascii "a=rtpmap:" ++ rest) = readRtpmapLine d rest := rfl

theorem readLine_fmtp_eq : readLine stod d (ascii "a=fmtp:" ++ rest) = readFmtpLine d rest := rfl

theorem readLine_framesize_eq :
    readLine stod d (ascii "a=framesize:" ++ rest) = readFramesizeLine d rest := rfl

/-- Behind an exact frame rate the frame rate line is not looked at. -/
theorem readLine_framerate_eq (h : d.exactFrameRateSeen = true) :
    readLine stod d (ascii "a=framerate:" ++ rest) = .ok d := by
  cases d with
  | mk =>
    cases h
    rfl

end Dispatch

/-! ## Reading the lines -/

variable (stod : Bytes → Except String Float) (a : Announcement) (d : SdpDescription)

theorem readLine_connection :
    readLine stod d a.settings.connectionLine = .ok (LineKind.connection.effect a d) := by
  have hcut : cut (asciiByte '/') (a.settings.multicastGroup ++ ascii "/1")
      = (a.settings.multicastGroup, some (ascii "1")) := cut_append a.announceable.slash_not_mem _
  rw [SdpSettings.connectionLine, List.append_assoc, readLine_connection_eq, readConnectionLine,
    hcut]
  rfl

theorem readLine_media :
    readLine stod d a.settings.mediaLine = .ok (LineKind.media.effect a d) := by
  have hport : a.settings.port.toNat < 65536 := a.settings.port.toNat_lt
  have hpayload : a.settings.payloadType.toNat ≤ 127 :=
    UInt8.le_iff_toNat_le.mp a.announceable.payloadType_le
  have hfields : a.settings.mediaLine = ascii "m=video " ++ (decimal a.settings.port.toNat
      ++ asciiByte ' ' :: (ascii "RTP/AVP"
        ++ asciiByte ' ' :: (decimal a.settings.payloadType.toNat ++ []))) := by
    rw [SdpSettings.mediaLine, List.append_assoc, List.append_assoc, List.append_nil]
    rfl
  rw [hfields, readLine_media_eq]
  have hport := @extractUnsigned_decimal a.settings.port.toNat (by omega) [] _ (by simp)
    (boundary_of_space (ascii "RTP/AVP"
      ++ asciiByte ' ' :: (decimal a.settings.payloadType.toNat ++ []))).1
  have htransport := @extractString_word (ascii "RTP/AVP") _ (by decide) (by decide +kernel)
    (boundary_of_space (decimal a.settings.payloadType.toNat ++ [])).2
  have hpayload := @extractUnsigned_decimal a.settings.payloadType.toNat (by omega)
    [asciiByte ' '] [] (by decide +kernel) (by simp)
  rw [List.nil_append] at hport
  rw [List.singleton_append] at hpayload
  simp only [readMediaLine, hport, htransport, hpayload]
  rw [if_neg (by omega)]
  simp only [UInt16.ofNat_toNat, UInt8.ofNat_toNat]
  rfl

theorem readLine_bitrate :
    readLine stod d a.settings.bitrateLine = .ok (LineKind.bitrate.effect a d) := by
  rw [SdpSettings.bitrateLine, readLine_bitrate_eq, readBitrateLine, parseUInt32_decimal]
  show (rejectIf (a.settings.maximumIpBitrateKbps = 0) _ >>= _) = _
  rw [rejectIf_bind_eq_ok]
  exact ⟨a.bitrate_ne_zero, rfl⟩

/-- A number in front of a space, as the payload types and the RTCP port stand. -/
theorem cut_decimal_space (n : Nat) (rest : Bytes) :
    cut (asciiByte ' ') (decimal n ++ asciiByte ' ' :: rest) = (decimal n, some rest) :=
  cut_append ((plain_decimal n).not_mem (by decide)) rest

theorem readLine_rtcp (settings : SdpSettings) (rtcpPort : UInt16) :
    readLine stod d (settings.rtcpLine rtcpPort) = .ok { d with rtcpPort := some rtcpPort } := by
  have hline : settings.rtcpLine rtcpPort = ascii "a=rtcp:" ++ (decimal rtcpPort.toNat
      ++ asciiByte ' ' :: (ascii "IN IP4 " ++ settings.multicastGroup)) := by
    rw [SdpSettings.rtcpLine, List.append_assoc, List.append_assoc]
    rfl
  rw [hline, readLine_rtcp_eq, readRtcpLine, cut_decimal_space, parseUInt16_decimal]
  rfl

theorem readLine_rtpmap :
    readLine stod d a.settings.rtpmapLine = .ok (LineKind.rtpmap.effect a d) := by
  have hline : a.settings.rtpmapLine = ascii "a=rtpmap:"
      ++ (decimal a.settings.payloadType.toNat ++ asciiByte ' ' :: ascii "H264/90000") := by
    rw [SdpSettings.rtpmapLine, List.append_assoc]
    rfl
  rw [hline, readLine_rtpmap_eq, readRtpmapLine, cut_decimal_space]
  simp only [parseUInt8_decimal]
  rfl

theorem readLine_framesize :
    readLine stod d a.settings.framesizeLine = .ok (LineKind.framesize.effect a d) := by
  have hline : a.settings.framesizeLine = ascii "a=framesize:"
      ++ (decimal a.settings.payloadType.toNat ++ asciiByte ' '
        :: (decimal a.settings.width.toNat
          ++ asciiByte '-' :: decimal a.settings.height.toNat)) := by
    simp only [SdpSettings.framesizeLine, List.append_assoc]
    rfl
  have hcut := cut_append (not_mem_decimal a.settings.width.toNat (b := asciiByte '-') (by decide))
    (decimal a.settings.height.toNat)
  rw [hline, readLine_framesize_eq, readFramesizeLine, cut_decimal_space]
  simp only [hcut, parseUInt8_decimal, parseUInt32_decimal]
  rfl

/-! ## The fmtp line -/

namespace Announcement

/-- The parameters of the fmtp line, each with its name. -/
def parameters : List (Bytes × Option Bytes) :=
  [(ascii "width", some (decimal a.settings.width.toNat)),
   (ascii "height", some (decimal a.settings.height.toNat)),
   (ascii "depth", some (ascii "8")),
   (ascii "exactframerate", some (decimal a.settings.fpsNumerator.toNat
     ++ asciiByte '/' :: decimal a.settings.fpsDenominator.toNat)),
   (ascii "sampling", some (ascii "YCbCr-4:2:0")),
   (ascii "colorimetry", some (ascii "BT709")),
   (ascii "TP", some (ascii "2110TPW")),
   (ascii "MAXUDP", some (decimal a.settings.maximumUdpBytes.toNat)),
   (ascii "TCS", some (ascii "SDR")),
   (ascii "RANGE", some (ascii "NARROW")),
   (ascii "measuredpixclk", some (decimal a.settings.measuredPixelClock)),
   (ascii "vtotal", some (decimal a.settings.height.toNat)),
   (ascii "htotal", some (decimal a.settings.width.toNat)),
   (ascii "IPMX", none),
   (ascii "packetization-mode", some (ascii "1")),
   (ascii "profile-level-id", some a.profile),
   (ascii "sprop-parameter-sets", some (base64 a.sps ++ asciiByte ',' :: base64 a.pps))]

theorem fmtpParameters_eq_map : a.settings.fmtpParameters a.profile a.sps a.pps
    = a.parameters.map fmtpParameter := by
  simp only [SdpSettings.fmtpParameters, List.append_assoc]
  rfl

theorem fmtpReadable_of_mem : ∀ parameter ∈ a.parameters, FmtpReadable parameter := by
  have hnames : ([ascii "width", ascii "height", ascii "depth", ascii "exactframerate",
      ascii "sampling", ascii "colorimetry", ascii "TP", ascii "MAXUDP", ascii "TCS",
      ascii "RANGE", ascii "measuredpixclk", ascii "vtotal", ascii "htotal", ascii "IPMX",
      ascii "packetization-mode", ascii "profile-level-id", ascii "sprop-parameter-sets"].all
      (FmtpName ·)) = true := by decide +kernel
  have hwords : ([ascii "8", ascii "YCbCr-4:2:0", ascii "BT709", ascii "2110TPW", ascii "SDR",
      ascii "NARROW", ascii "1"].all (Plain ·)) = true := by decide +kernel
  have hrate := plain_joined (plain_decimal a.settings.fpsNumerator.toNat)
    (plain_decimal a.settings.fpsDenominator.toNat) (b := asciiByte '/') (by decide +kernel)
  have hsets := plain_joined (plain_base64 a.sps) (plain_base64 a.pps) (b := asciiByte ',')
    (by decide +kernel)
  simp only [List.all_cons, List.all_nil, Bool.and_true, Bool.and_eq_true, decide_eq_true_eq]
    at hnames hwords
  simp only [parameters, List.forall_mem_cons, FmtpReadable, Option.mem_def, Option.some.injEq,
    forall_eq', hnames, hwords, hrate, hsets, plain_decimal, plain_profileLevelId a.profile_eq,
    reduceCtorEq, IsEmpty.forall_iff, implies_true, List.not_mem_nil, and_self]

/-- What `parse_fmtp` makes of the parameters. -/
def fmtpValues : FmtpValues := (a.parameters.map fmtpPair).reverse

theorem parseFmtp_fmtpParameters :
    parseFmtp ((ascii ";").intercalate (a.settings.fmtpParameters a.profile a.sps a.pps))
      = a.fmtpValues := by
  rw [fmtpParameters_eq_map]
  exact parseFmtp_parameters (List.cons_ne_nil _ _) a.fmtpReadable_of_mem

end Announcement

/-- A parameter that is there. -/
theorem whenFound_some {α : Type} (value : Bytes) (set : Bytes → Except String α) (unset : α) :
    whenFound (some value) set unset = set value := rfl

theorem parseExactFrameRate_text (settings : SdpSettings) :
    parseExactFrameRate (decimal a.settings.fpsNumerator.toNat
        ++ asciiByte '/' :: decimal a.settings.fpsDenominator.toNat) settings
      = .ok { settings with
          fpsNumerator := a.settings.fpsNumerator
          fpsDenominator := a.settings.fpsDenominator } := by
  have hcut := cut_append (not_mem_decimal a.settings.fpsNumerator.toNat (b := asciiByte '/')
    (by decide)) (decimal a.settings.fpsDenominator.toNat)
  rw [parseExactFrameRate, hcut]
  simp only [parseUInt32_decimal]
  show (rejectIf (a.settings.fpsNumerator = 0 ∨ a.settings.fpsDenominator = 0) _ >>= _) = _
  rw [rejectIf_bind_eq_ok]
  exact ⟨not_or.mpr ⟨a.numerator_ne_zero, a.denominator_ne_zero⟩, rfl⟩

theorem readFmtpFormat_values :
    readFmtpFormat d a.fmtpValues = .ok { d with
      settings := { d.settings with
        width := a.settings.width
        height := a.settings.height
        fpsNumerator := a.settings.fpsNumerator
        fpsDenominator := a.settings.fpsDenominator
        maximumUdpBytes := a.settings.maximumUdpBytes }
      fmtpWidth := some a.settings.width
      fmtpHeight := some a.settings.height
      exactFrameRateSeen := true } := by
  have hwidth : a.fmtpValues.find "width" = some (decimal a.settings.width.toNat) := rfl
  have hheight : a.fmtpValues.find "height" = some (decimal a.settings.height.toNat) := rfl
  have hrate : a.fmtpValues.find "exactframerate" = some (decimal a.settings.fpsNumerator.toNat
      ++ asciiByte '/' :: decimal a.settings.fpsDenominator.toNat) := rfl
  have hudp : a.fmtpValues.find "maxudp" = some (decimal a.settings.maximumUdpBytes.toNat) := rfl
  simp only [readFmtpFormat, hwidth, hheight, hrate, hudp, whenFound_some, parseUInt32_decimal,
    parseUInt16_decimal, parseExactFrameRate_text]
  rfl

theorem readParameterSets_value :
    readParameterSets d (base64 a.sps ++ asciiByte ',' :: base64 a.pps)
      = .ok { d with sps := a.sps, pps := a.pps } := by
  have hsps : parseH264Sps a.sps ≠ none := by
    obtain ⟨parsed, hparsed, _⟩ := a.sps_conforms
    exact Option.ne_none_iff_exists'.mpr ⟨parsed, hparsed⟩
  have hpps := Option.isSome_iff_ne_none.mp a.pps_parsed
  rw [readParameterSets, cut_append (comma_not_mem_base64 a.sps)]
  simp only [decodeBase64_base64, Option.isNone_iff_eq_none, hsps, hpps, or_self, if_false]

theorem readFmtpEncoding_values :
    readFmtpEncoding d a.fmtpValues = .ok { d with
      depth := some 8
      packetizationMode := some 1
      ipmx := true
      profileLevelId := a.profile
      sps := a.sps
      pps := a.pps } := by
  have hdepth : a.fmtpValues.find "depth" = some (decimal (8 : UInt8).toNat) := rfl
  have hmode : a.fmtpValues.find "packetization-mode" = some (decimal (1 : UInt8).toNat) := rfl
  have hsets : a.fmtpValues.find "sprop-parameter-sets"
      = some (base64 a.sps ++ asciiByte ',' :: base64 a.pps) := rfl
  simp only [readFmtpEncoding, hdepth, hmode, hsets, whenFound_some, parseUInt8_decimal]
  exact readParameterSets_value a _

theorem readLine_fmtp :
    readLine stod d (a.settings.fmtpLine a.profile a.sps a.pps)
      = .ok (LineKind.fmtp.effect a d) := by
  have hline : a.settings.fmtpLine a.profile a.sps a.pps = ascii "a=fmtp:"
      ++ (decimal a.settings.payloadType.toNat ++ asciiByte ' '
        :: (ascii ";").intercalate (a.settings.fmtpParameters a.profile a.sps a.pps)) := by
    rw [SdpSettings.fmtpLine, List.append_assoc, List.append_assoc]
    rfl
  rw [hline, readLine_fmtp_eq, readFmtpLine, cut_decimal_space]
  simp only [parseUInt8_decimal, a.parseFmtp_fmtpParameters]
  show readFmtpFormat _ _ >>= _ = _
  rw [readFmtpFormat_values]
  exact readFmtpEncoding_values a _

/-! ## Every line -/

/-- **A line of an announcement is read as its effect.** The frame rate line counts on the
fmtp line before it. -/
theorem readLine_text (kind : LineKind) (h : kind = .framerate → d.exactFrameRateSeen = true) :
    readLine stod d (kind.text a) = .ok (kind.effect a d) := by
  cases kind with
  | connection => exact readLine_connection stod a d
  | media => exact readLine_media stod a d
  | bitrate => exact readLine_bitrate stod a d
  | rtcp => exact readLine_rtcp stod d a.settings (a.settings.port + 1)
  | rtpmap => exact readLine_rtpmap stod a d
  | fmtp => exact readLine_fmtp stod a d
  | framesize => exact readLine_framesize stod a d
  | framerate => exact readLine_framerate_eq stod d _ (h rfl)
  | refclk => rfl
  | mediaClock => rfl
  | version => rfl
  | origin => rfl
  | session => rfl
  | time => rfl
  | sourceFilter => rfl
  | extmap => rfl
  | sendonly => rfl

end Ipmx.Sdp
