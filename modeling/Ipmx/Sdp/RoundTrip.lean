/-
Ipmx.Sdp.RoundTrip — a description is read and validated as it was made.

`makeSdp_announcement` turns a successful `make_sdp` into an `Announcement`,
and `foldlM_readLine` runs its lines in any order in which the fmtp line stands
before the frame rate line: the run is the fold of the effects of the lines,
and since these commute it ends in `Announcement.description` whatever the
order was. `validateIpmxSdp_description` runs the validator on that state.
-/
import Ipmx.Sdp.LineTheorems
import Ipmx.Sdp.MakeSdpTheorems
import Ipmx.Sdp.ValidateSdpTheorems

namespace Ipmx.Sdp

open H264
open Ipmx.Lib

/-! ## The lines of a text -/

/-- The text of some lines is their texts and carriage returns between line feeds. -/
theorem unlines_eq_intercalate (lines : List Bytes) :
    unlines lines = [asciiByte '\n'].intercalate
      (lines.map (· ++ [asciiByte '\r']) ++ [[]]) := by
  induction lines with
  | nil => rfl
  | cons line lines ih =>
    have hne : lines.map (· ++ [asciiByte '\r']) ++ [[]] ≠ [] := by simp
    have hcons : unlines (line :: lines) = line ++ ascii "\r\n" ++ unlines lines :=
      List.flatMap_cons
    rw [List.map_cons, List.cons_append, List.intercalate_cons_of_ne_nil hne, ← ih, hcons,
      List.append_assoc, List.append_assoc, List.append_assoc]
    rfl

theorem dropCarriageReturn_append (line : Bytes) :
    dropCarriageReturn (line ++ [asciiByte '\r']) = line := by
  simp [dropCarriageReturn]

/-- **A text is read in the lines it was made of.** -/
theorem getLines_unlines {lines : List Bytes} (h : ∀ line ∈ lines, asciiByte '\n' ∉ line) :
    getLines (unlines lines) = lines := by
  have hsplit : (unlines lines).splitOn (asciiByte '\n')
      = lines.map (· ++ [asciiByte '\r']) ++ [[]] := by
    rw [unlines_eq_intercalate]
    refine List.splitOn_intercalate _ ?_ (by simp)
    intro piece hpiece
    rcases List.mem_append.mp hpiece with hpiece | hpiece
    · obtain ⟨line, hline, rfl⟩ := List.mem_map.mp hpiece
      have hreturn : asciiByte '\n' ∉ [asciiByte '\r'] := by decide
      simpa using ⟨h line hline, fun heq => hreturn (by simp [heq])⟩
    · rw [List.mem_singleton.mp hpiece]
      exact List.not_mem_nil
  rw [getLines, hsplit]
  simp only [List.getLast?_concat, if_true, List.dropLast_concat, List.map_map]
  refine (List.map_congr_left fun line _ => ?_).trans (List.map_id lines)
  exact dropCarriageReturn_append line

/-! ## The order of the lines -/

/-- In front of every frame rate line there is an fmtp line. -/
def FmtpFirst (lines : List Bytes) : Prop :=
  ∀ front line back, lines = front ++ line :: back →
    (ascii "a=framerate:").isPrefixOf line = true →
      ∃ fmtp ∈ front, (ascii "a=fmtp:").isPrefixOf fmtp = true

namespace LineKind

variable (a : Announcement)

/-- Only the fmtp line begins like one. -/
theorem eq_fmtp_of_prefix {kind : LineKind}
    (h : (ascii "a=fmtp:").isPrefixOf (kind.text a) = true) : kind = .fmtp := by
  cases kind <;> first | rfl | cases h

/-- Only the frame rate line begins like one. -/
theorem eq_framerate_of_prefix {kind : LineKind}
    (h : (ascii "a=framerate:").isPrefixOf (kind.text a) = true) : kind = .framerate := by
  cases kind <;> first | rfl | cases h

theorem fmtp_prefix : (ascii "a=fmtp:").isPrefixOf (fmtp.text a) = true := rfl

theorem framerate_prefix : (ascii "a=framerate:").isPrefixOf (framerate.text a) = true := rfl

/-- An exact frame rate that was seen stays seen, and the fmtp line shows one. -/
theorem exactFrameRateSeen_effect {kind : LineKind} {d : SdpDescription}
    (h : d.exactFrameRateSeen = true ∨ kind = fmtp) :
    (kind.effect a d).exactFrameRateSeen = true := by
  cases kind <;> first | rfl | simpa [effect] using h

end LineKind

variable (stod : Bytes → Except String Float) (a : Announcement)

/-- **Reading some lines is the fold of their effects.** By induction on the lines: the
exact frame rate has been seen, or an fmtp line is still to come before the frame rate. -/
theorem foldlM_readLine (kinds : List LineKind) (d : SdpDescription)
    (h : d.exactFrameRateSeen = true ∨ FmtpFirst (kinds.map (·.text a))) :
    (kinds.map (·.text a)).foldlM (readLine stod) d
      = .ok (kinds.foldl (fun d kind => kind.effect a d) d) := by
  induction kinds generalizing d with
  | nil => rfl
  | cons kind kinds ih =>
    have hseen : kind = .framerate → d.exactFrameRateSeen = true := by
      rintro rfl
      rcases h with h | h
      · exact h
      · obtain ⟨fmtp, hmem, _⟩ := h [] _ _ rfl (LineKind.framerate_prefix a)
        cases hmem
    have hnext : (kind.effect a d).exactFrameRateSeen = true
        ∨ FmtpFirst (kinds.map (·.text a)) := by
      rcases h with h | h
      · exact .inl (LineKind.exactFrameRateSeen_effect a (.inl h))
      by_cases hkind : kind = .fmtp
      · exact .inl (LineKind.exactFrameRateSeen_effect a (.inr hkind))
      · refine .inr ?_
        intro front line back hlines hline
        obtain ⟨fmtp, hmem, hfmtp⟩ := h (kind.text a :: front) line back
          (by rw [List.map_cons, hlines, List.cons_append]) hline
        rcases List.mem_cons.mp hmem with rfl | hmem
        · exact absurd (LineKind.eq_fmtp_of_prefix a hfmtp) hkind
        · exact ⟨fmtp, hmem, hfmtp⟩
    rw [List.map_cons, List.foldlM_cons, readLine_text stod a d kind hseen]
    exact ih _ hnext

/-! ## What is read -/

/-- The settings a reader learns: all but the source address and the rate of the encoder. -/
def Announcement.readSettings : SdpSettings :=
  { a.settings with
    targetBitrateKbps := unreadSettings.targetBitrateKbps
    sourceAddress := unreadSettings.sourceAddress }

/-- The description of an announcement. -/
def Announcement.description : SdpDescription where
  settings := a.readSettings
  sps := a.sps
  pps := a.pps
  rtcpPort := some (a.settings.port + 1)
  framesizeWidth := some a.settings.width
  framesizeHeight := some a.settings.height
  framesizePayloadType := some a.settings.payloadType
  fmtpWidth := some a.settings.width
  fmtpHeight := some a.settings.height
  rtpEncoding := ascii "H264"
  rtpClockRate := 90000
  rtpmapPayloadType := some a.settings.payloadType
  fmtpPayloadType := some a.settings.payloadType
  trafficProfile := ascii "2110TPW"
  sampling := ascii "YCbCr-4:2:0"
  colorimetry := ascii "BT709"
  transferCharacteristic := ascii "SDR"
  range := ascii "NARROW"
  profileLevelId := a.profile
  depth := some 8
  packetizationMode := some 1
  exactFrameRateSeen := true
  ipmx := true
  mediaSeen := true
  bitrateSeen := true
  fmtpSeen := true

/-- The effects of the lines, one after the other. -/
theorem foldl_effect :
    LineKind.all.foldl (fun d kind => kind.effect a d) { settings := unreadSettings }
      = a.description := by
  have hwidth := LineKind.orIfZero_self a.settings.width
  have hheight := LineKind.orIfZero_self a.settings.height
  simp only [LineKind.all, List.foldl_cons, List.foldl_nil, LineKind.effect, hwidth, hheight]
  rfl

/-- In every order of the lines the description is the same. -/
theorem readSdpDescription_perm {lines : List Bytes}
    (hperm : lines.Perm (LineKind.all.map (·.text a))) (hfirst : FmtpFirst lines)
    (hnewline : ∀ kind : LineKind, asciiByte '\n' ∉ kind.text a) :
    readSdpDescription stod (unlines lines) = .ok a.description := by
  obtain ⟨kinds, hkinds, rfl⟩ := perm_map_exists hperm
  have hlines : ∀ line ∈ kinds.map (·.text a), asciiByte '\n' ∉ line := by
    intro line hline
    obtain ⟨kind, _, rfl⟩ := List.mem_map.mp hline
    exact hnewline kind
  rw [readSdpDescription, getLines_unlines hlines, foldlM_readLine stod a kinds _ (.inr hfirst),
    ← foldl_effect]
  exact congrArg Except.ok (hkinds.foldl_eq' (fun x _ y _ d => LineKind.effect_comm a y x d) _)

/-! ## No line holds a line feed -/

theorem newline_not_mem_decimal (n : Nat) : asciiByte '\n' ∉ decimal n :=
  (plain_decimal n).not_mem (by decide)

theorem newline_not_mem_ascii {text : String}
    (h : text.toList.all (asciiByte · != asciiByte '\n') = true) :
    asciiByte '\n' ∉ ascii text := by
  intro hmem
  obtain ⟨c, hc, heq⟩ := List.mem_map.mp hmem
  have hne := List.all_eq_true.mp h c hc
  simp [heq] at hne

theorem newline_not_mem_fmtpLine :
    asciiByte '\n' ∉ a.settings.fmtpLine a.profile a.sps a.pps := by
  have hparameters :
      asciiByte '\n' ∉ (ascii ";").intercalate (a.parameters.map fmtpParameter) := by
    intro hmem
    rcases mem_of_mem_intercalate hmem with h | ⟨token, htoken, h⟩
    · exact newline_not_mem_ascii (by decide) h
    · obtain ⟨parameter, hparameter, rfl⟩ := List.mem_map.mp htoken
      exact (a.fmtpReadable_of_mem parameter hparameter).plain.not_mem (by decide) h
  rw [SdpSettings.fmtpLine, a.fmtpParameters_eq_map]
  simp (disch := decide) [SdpSettings.payloadTypeText, newline_not_mem_decimal,
    newline_not_mem_ascii, hparameters]

theorem newline_not_mem_text (kind : LineKind) : asciiByte '\n' ∉ kind.text a := by
  have hgroup := a.announceable.newline_not_mem_group
  have hsource := a.announceable.newline_not_mem_source
  have hrefclk := a.announceable.newline_not_mem_refclk
  have hclock := a.announceable.mediaClock_eq
  cases kind with
  | fmtp => exact newline_not_mem_fmtpLine a
  | _ =>
    simp (disch := decide) [LineKind.text, SdpSettings.originLine,
      SdpSettings.connectionLine, SdpSettings.mediaLine, SdpSettings.sourceFilterLine,
      SdpSettings.bitrateLine, SdpSettings.rtcpLine, SdpSettings.refclkLine,
      SdpSettings.mediaClockLine, SdpSettings.rtpmapLine, SdpSettings.framerateLine,
      SdpSettings.framesizeLine, SdpSettings.extmapLine, SdpSettings.payloadTypeText,
      kCaptureTimeExtensionUri, FrameRate.fixed, newline_not_mem_decimal, newline_not_mem_ascii,
      hgroup, hsource, hrefclk, hclock]

/-! ## The validator -/

theorem validateMedia_description : validateMedia a.description = [] := by
  have hport : isValidIpmxMediaPort a.description.settings.port = true := a.port_valid
  simp only [validateMedia, List.append_eq_nil_iff, require_eq_nil, and_assoc]
  exact ⟨rfl, rfl, a.bitrate_ne_zero, hport, hport, rfl, rfl, iequals_self _, rfl⟩

theorem validateFmtp_description : validateFmtp a.description = [] := by
  have hwidth : ∃ width ∈ a.description.fmtpWidth, width ≠ 0 :=
    ⟨_, rfl, a.announceable.width_ne_zero⟩
  have hheight : ∃ height ∈ a.description.fmtpHeight, height ≠ 0 :=
    ⟨_, rfl, a.announceable.height_ne_zero⟩
  simp only [validateFmtp, List.append_eq_nil_iff, require_eq_nil, and_assoc]
  exact ⟨rfl, rfl, hwidth, hheight, rfl, rfl, iequals_self _, a.udp_ge, a.udp_le, rfl,
    iequals_self _, iequals_self _, iequals_self _, iequals_self _, rfl⟩

theorem validateClocks_description : validateClocks a.description = [] := by
  have hclock : a.description.settings.mediaClock = ascii "direct=0" :=
    a.announceable.mediaClock_eq
  have hframesize : a.description.framesizeWidth.isSome
      ∧ a.description.framesizeHeight.isSome := ⟨rfl, rfl⟩
  rw [validateClocks, if_pos hframesize]
  simp only [List.append_eq_nil_iff, require_eq_nil, and_assoc]
  exact ⟨a.refclk_ne_nil, .inl (hclock ▸ iequals_self _), rfl, rfl, rfl, rfl, rfl⟩

theorem Announcement.sps_ne_nil : a.sps ≠ [] := by
  intro h
  have hprofile := a.profile_eq
  rw [h] at hprofile
  cases hprofile

theorem Announcement.pps_ne_nil : a.pps ≠ [] := by
  intro h
  have hparsed := a.pps_parsed
  rw [h] at hparsed
  cases hparsed

/-- The SPS that was read is the one that was announced, and it conforms. -/
theorem validateSps_description : validateSps a.description = .ok [] := by
  obtain ⟨parsed, hparsed, hconforms⟩ := a.sps_conforms
  have hprofile : profileLevelId a.description.sps = .ok a.profile := a.profile_eq
  have hsps : parseH264Sps a.description.sps = some parsed := hparsed
  have hequal : require (iequals a.description.profileLevelId a.profile)
      "profile-level-id does not match SPS" = [] := require_eq_nil.mpr (iequals_self _)
  rw [validateSps, hprofile, hsps]
  show Except.ok (require _ _ ++ validateIpmxSps parsed a.settings.format) = Except.ok []
  rw [hconforms, hequal]
  rfl

/-- **The description of an announcement is a valid one.** -/
theorem validateIpmxSdp_description : validateIpmxSdp a.description = .ok [] :=
  validateIpmxSdp_eq_ok_nil.mpr
    ⟨validateMedia_description a, validateFmtp_description a, validateClocks_description a,
      ⟨a.sps_ne_nil, a.pps_ne_nil⟩, validateSps_description a, a.pps_parsed⟩

/-! ## The reference stream of the tests -/

def referenceSps : NalUnit :=
  [0x67, 0x64, 0x00, 0x20, 0xAC, 0xB4, 0x02, 0x80, 0x2D, 0xD8, 0x0B, 0x50, 0x10, 0x10, 0x14, 0x00,
   0x00, 0x03, 0x00, 0x04, 0x00, 0x00, 0x03, 0x01, 0xE3, 0x90, 0x00, 0x03, 0xD0, 0x90, 0x00, 0x82,
   0xD9, 0x8B, 0x28, 0x0F, 0x8C, 0x19, 0x50]

def referencePps : NalUnit := [0x68, 0xEF, 0x3C, 0xB0]

def referenceSettings : SdpSettings where
  tsRefclk := ascii "localmac=02-00-00-00-00-01"

theorem announceable_reference : Announceable referenceSettings := by
  constructor <;> decide

/-! ## From the settings to the description that is read -/

/-- **What `make_sdp` accepts is an announcement**, and the text has its lines. -/
theorem makeSdp_announcement {settings : SdpSettings} {sps pps : NalUnit} {text : Bytes}
    (hannounceable : Announceable settings) (h : makeSdp settings sps pps = .ok text) :
    ∃ a : Announcement, a.settings = settings ∧ a.sps = sps ∧ a.pps = pps
      ∧ text = unlines (LineKind.all.map (·.text a)) := by
  obtain ⟨profile, haccepted, rfl⟩ := accepted_of_makeSdp h
  let a : Announcement :=
    { settings, sps, pps, profile
      announceable := hannounceable
      numerator_ne_zero := haccepted.numerator_ne_zero
      denominator_ne_zero := haccepted.denominator_ne_zero
      refclk_ne_nil := haccepted.refclk_ne_nil
      port_valid := haccepted.port_valid
      udp_ge := haccepted.udp_ge
      udp_le := haccepted.udp_le
      bitrate_ne_zero := haccepted.bitrate_ne_zero
      sps_conforms := haccepted.sps_conforms
      pps_parsed := haccepted.pps_parsed
      profile_eq := haccepted.profile_eq }
  exact ⟨a, rfl, rfl, rfl, congrArg unlines (LineKind.lines_eq_map a)⟩

/-- A description tells what was announced. -/
structure Announces (settings : SdpSettings) (sps pps : NalUnit) (d : SdpDescription) : Prop where
  multicastGroup : d.settings.multicastGroup = settings.multicastGroup
  port : d.settings.port = settings.port
  payloadType : d.settings.payloadType = settings.payloadType
  width : d.settings.width = settings.width
  height : d.settings.height = settings.height
  fpsNumerator : d.settings.fpsNumerator = settings.fpsNumerator
  fpsDenominator : d.settings.fpsDenominator = settings.fpsDenominator
  maximumIpBitrateKbps : d.settings.maximumIpBitrateKbps = settings.maximumIpBitrateKbps
  maximumUdpBytes : d.settings.maximumUdpBytes = settings.maximumUdpBytes
  tsRefclk : d.settings.tsRefclk = settings.tsRefclk
  mediaClock : d.settings.mediaClock = settings.mediaClock
  rtcpPort : d.rtcpPort = some (settings.port + 1)
  sps : d.sps = sps
  pps : d.pps = pps

theorem announces_description : Announces a.settings a.sps a.pps a.description := by
  constructor <;> rfl

/-- The lines of an announcement stand in an order that can be read. -/
theorem fmtpFirst_lines : FmtpFirst (LineKind.all.map (·.text a)) := by
  intro front line back hlines hline
  obtain ⟨kinds, rest, hall, rfl, hrest⟩ := List.map_eq_append_iff.mp hlines
  obtain ⟨kind, kinds', rfl, rfl, _⟩ := List.map_eq_cons_iff.mp hrest
  obtain rfl := LineKind.eq_framerate_of_prefix a hline
  have hfmtp : LineKind.fmtp ∈ kinds ++ LineKind.framerate :: kinds' := by
    rw [← hall]
    decide
  rcases List.mem_append.mp hfmtp with hmem | hmem
  · exact ⟨_, List.mem_map_of_mem hmem, LineKind.fmtp_prefix a⟩
  · -- behind the frame rate line there is no fmtp line
    have hbehind : [LineKind.framerate, LineKind.fmtp].Sublist LineKind.all := by
      rw [hall]
      have htail := List.singleton_sublist.mpr (List.mem_of_ne_of_mem (by simp) hmem)
      exact (htail.cons_cons LineKind.framerate).trans (List.sublist_append_right kinds _)
    exact absurd hbehind (by decide)

/-- What is made is read, as it was made. -/
theorem readSdpDescription_makeSdp {settings : SdpSettings} {sps pps : NalUnit} {text : Bytes}
    (hannounceable : Announceable settings) (hmake : makeSdp settings sps pps = .ok text) :
    ∃ d, readSdpDescription stod text = .ok d ∧ Announces settings sps pps d
      ∧ validateIpmxSdp d = .ok [] := by
  obtain ⟨a, rfl, rfl, rfl, rfl⟩ := makeSdp_announcement hannounceable hmake
  exact ⟨a.description, readSdpDescription_perm stod a (.refl _) (fmtpFirst_lines a)
    (newline_not_mem_text a), announces_description a, validateIpmxSdp_description a⟩

/-- **The round trip.** Whatever `make_sdp` accepts, every order of its lines that keeps the
fmtp line in front of the frame rate line is read as what was announced, without an error of
the validator; its own order is one of these. -/
theorem makeSdp_read_validate {settings : SdpSettings} {sps pps : NalUnit} {text : Bytes}
    (hannounceable : Announceable settings) (hmake : makeSdp settings sps pps = .ok text) :
    unlines (getLines text) = text ∧ FmtpFirst (getLines text)
      ∧ ∀ lines : List Bytes, lines.Perm (getLines text) → FmtpFirst lines →
        ∃ d, readSdpDescription stod (unlines lines) = .ok d ∧ Announces settings sps pps d
          ∧ validateIpmxSdp d = .ok [] := by
  obtain ⟨a, rfl, rfl, rfl, rfl⟩ := makeSdp_announcement hannounceable hmake
  have hlines : getLines (unlines (LineKind.all.map (·.text a)))
      = LineKind.all.map (·.text a) := by
    refine getLines_unlines ?_
    intro line hline
    obtain ⟨kind, _, rfl⟩ := List.mem_map.mp hline
    exact newline_not_mem_text a kind
  rw [hlines]
  refine ⟨rfl, fmtpFirst_lines a, ?_⟩
  intro lines hperm hfirst
  exact ⟨a.description, readSdpDescription_perm stod a hperm hfirst (newline_not_mem_text a),
    announces_description a, validateIpmxSdp_description a⟩

theorem makeSdp_read_validate_reference :
    ∃ text d, makeSdp referenceSettings referenceSps referencePps = .ok text
      ∧ readSdpDescription (fun _ => .ok 60) text = .ok d
      ∧ Announces referenceSettings referenceSps referencePps d
      ∧ validateIpmxSdp d = .ok [] := by
  have hok : (makeSdp referenceSettings referenceSps referencePps).toOption.isSome = true := by
    decide +kernel
  obtain ⟨text, hmake⟩ := exists_of_isSome hok
  obtain ⟨htext, hfirst, hread⟩ :=
    makeSdp_read_validate (fun _ => .ok 60) announceable_reference hmake
  obtain ⟨d, hd, hannounces, hvalid⟩ := hread (getLines text) (.refl _) hfirst
  rw [htext] at hd
  exact ⟨text, d, hmake, hd, hannounces, hvalid⟩

end Ipmx.Sdp
