/-
Ipmx.Sdp.ReadStream — the parameters of the stream are read from every text
that stays on its lines.

`Announceable` asks for a group without a slash and for the media clock of the
sender. Neither touches the fmtp line: what is read of the stream is the same
for any group and any media clock (`readSdpDescription_stream`).
-/
import Ipmx.Sdp.RoundTrip

namespace Ipmx.Sdp

open H264
open Ipmx.Lib

/-- The texts of the settings stay on their lines, and the payload type is one of RTP. -/
structure OnItsLines (settings : SdpSettings) : Prop where
  payloadType_le : settings.payloadType ≤ 127
  newline_not_mem_group : asciiByte '\n' ∉ settings.multicastGroup
  newline_not_mem_refclk : asciiByte '\n' ∉ settings.tsRefclk
  newline_not_mem_clock : asciiByte '\n' ∉ settings.mediaClock
  newline_not_mem_source : asciiByte '\n' ∉ settings.sourceAddress

/-- The settings with the group and the media clock of an announcement. -/
def SdpSettings.quiet (settings : SdpSettings) : SdpSettings :=
  { settings with multicastGroup := [], mediaClock := ascii "direct=0" }

/-- What was accepted is an announcement, but for its group and its media clock. -/
theorem exists_quiet {settings : SdpSettings} {sps pps : NalUnit} {profile : Bytes}
    (h : Accepted settings sps pps profile) (hlines : OnItsLines settings)
    (hwidth : settings.width ≠ 0) (hheight : settings.height ≠ 0) :
    ∃ a : Announcement, a.settings = settings.quiet ∧ a.sps = sps ∧ a.pps = pps
      ∧ a.profile = profile :=
  ⟨{ settings := settings.quiet, sps, pps, profile
     announceable := {
       payloadType_le := hlines.payloadType_le
       width_ne_zero := hwidth
       height_ne_zero := hheight
       mediaClock_eq := rfl
       slash_not_mem := List.not_mem_nil
       newline_not_mem_group := List.not_mem_nil
       newline_not_mem_refclk := hlines.newline_not_mem_refclk
       newline_not_mem_source := hlines.newline_not_mem_source }
     numerator_ne_zero := h.numerator_ne_zero
     denominator_ne_zero := h.denominator_ne_zero
     refclk_ne_nil := h.refclk_ne_nil
     port_valid := h.port_valid
     udp_ge := h.udp_ge
     udp_le := h.udp_le
     bitrate_ne_zero := h.bitrate_ne_zero
     sps_conforms := h.sps_conforms
     pps_parsed := h.pps_parsed
     profile_eq := h.profile_eq }, rfl, rfl, rfl, rfl⟩

/-! ## The lines in front of the fmtp line -/

variable (stod : Bytes → Except String Float)

/-- The lines in front of the fmtp line. -/
def SdpSettings.frontLines (settings : SdpSettings) : List Bytes :=
  [ascii "v=0", settings.originLine, ascii "s=IPMX Windows H.264 loopback",
   settings.connectionLine, ascii "t=0 0", settings.mediaLine, settings.sourceFilterLine,
   settings.bitrateLine, settings.rtcpLine (settings.port + 1), settings.refclkLine,
   settings.mediaClockLine, settings.rtpmapLine]

/-- The lines behind it. -/
def backKinds : List LineKind := [.framerate, .framesize, .extmap, .sendonly]

theorem lines_eq_front {settings : SdpSettings} {a : Announcement}
    (ha : a.settings = settings.quiet) :
    settings.lines (settings.port + 1) a.profile a.sps a.pps
      = settings.frontLines ++ LineKind.fmtp.text a :: backKinds.map (·.text a) := by
  simp only [LineKind.text, backKinds, List.map_cons, List.map_nil, ha]
  rfl

/-- Lines that are read whatever has been read before are read in a row. -/
theorem foldlM_exists_ok {lines : List Bytes}
    (h : ∀ line ∈ lines, ∀ d, ∃ d', readLine stod d line = .ok d') (d : SdpDescription) :
    ∃ d', lines.foldlM (readLine stod) d = .ok d' := by
  induction lines generalizing d with
  | nil => exact ⟨d, rfl⟩
  | cons line lines ih =>
    obtain ⟨d', hline⟩ := h line List.mem_cons_self d
    obtain ⟨d'', hlines⟩ := ih (fun line hmem => h line (List.mem_cons_of_mem _ hmem)) d'
    refine ⟨d'', ?_⟩
    rw [List.foldlM_cons, hline]
    exact hlines

/-- Every line in front of the fmtp line is read. -/
theorem readLine_frontLines {settings : SdpSettings} {a : Announcement}
    (ha : a.settings = settings.quiet) :
    ∀ line ∈ settings.frontLines, ∀ d, ∃ d', readLine stod d line = .ok d' := by
  have hmedia : settings.mediaLine = a.settings.mediaLine := by
    rw [ha]
    rfl
  have hbitrate : settings.bitrateLine = a.settings.bitrateLine := by
    rw [ha]
    rfl
  have hrtpmap : settings.rtpmapLine = a.settings.rtpmapLine := by
    rw [ha]
    rfl
  simp only [SdpSettings.frontLines, List.forall_mem_cons, hmedia, hbitrate, hrtpmap]
  refine ⟨fun d => ⟨_, rfl⟩, fun d => ⟨_, rfl⟩, fun d => ⟨_, rfl⟩, fun d => ⟨_, rfl⟩,
    fun d => ⟨_, rfl⟩, fun d => ⟨_, readLine_media stod a d⟩, fun d => ⟨_, rfl⟩,
    fun d => ⟨_, readLine_bitrate stod a d⟩, fun d => ⟨_, readLine_rtcp stod d settings _⟩,
    fun d => ⟨_, rfl⟩, fun d => ⟨_, rfl⟩, fun d => ⟨_, readLine_rtpmap stod a d⟩, ?_⟩
  intro line hmem
  cases hmem

/-! ## The stream -/

/-- The parameters of the stream a description tells. -/
structure TellsStream (settings : SdpSettings) (sps pps : NalUnit) (profile : Bytes)
    (d : SdpDescription) : Prop where
  width : d.settings.width = settings.width
  height : d.settings.height = settings.height
  fpsNumerator : d.settings.fpsNumerator = settings.fpsNumerator
  fpsDenominator : d.settings.fpsDenominator = settings.fpsDenominator
  profileLevelId : d.profileLevelId = profile
  packetizationMode : d.packetizationMode = some 1
  sps : d.sps = sps
  pps : d.pps = pps

/-- From the fmtp line on, the lines tell the stream. -/
theorem foldlM_fmtp {settings : SdpSettings} {a : Announcement} (ha : a.settings = settings.quiet)
    (d : SdpDescription) :
    ∃ d', (LineKind.fmtp.text a :: backKinds.map (·.text a)).foldlM (readLine stod) d = .ok d'
      ∧ TellsStream settings a.sps a.pps a.profile d' := by
  refine ⟨backKinds.foldl (fun d kind => kind.effect a d) (LineKind.fmtp.effect a d), ?_, ?_⟩
  · have hseen : (LineKind.fmtp.effect a d).exactFrameRateSeen = true := rfl
    have hback := foldlM_readLine stod a backKinds (LineKind.fmtp.effect a d) (.inl hseen)
    rw [List.foldlM_cons, readLine_text stod a d .fmtp (by simp), ok_bind]
    exact hback
  · simp only [backKinds, List.foldl_cons, List.foldl_nil, LineKind.effect,
      LineKind.orIfZero_self, ha]
    constructor <;> rfl

theorem newline_not_mem_frontLines {settings : SdpSettings} (hlines : OnItsLines settings) :
    ∀ line ∈ settings.frontLines, asciiByte '\n' ∉ line := by
  have hgroup := hlines.newline_not_mem_group
  have hrefclk := hlines.newline_not_mem_refclk
  have hclock := hlines.newline_not_mem_clock
  have hsource := hlines.newline_not_mem_source
  simp (disch := decide) [SdpSettings.frontLines, SdpSettings.originLine,
    SdpSettings.connectionLine, SdpSettings.mediaLine, SdpSettings.sourceFilterLine,
    SdpSettings.bitrateLine, SdpSettings.rtcpLine, SdpSettings.refclkLine,
    SdpSettings.mediaClockLine, SdpSettings.rtpmapLine, SdpSettings.payloadTypeText,
    newline_not_mem_decimal, newline_not_mem_ascii, hgroup, hsource, hrefclk, hclock]

theorem newline_not_mem_lines {settings : SdpSettings} {a : Announcement}
    (ha : a.settings = settings.quiet) (hlines : OnItsLines settings) :
    ∀ line ∈ settings.lines (settings.port + 1) a.profile a.sps a.pps, asciiByte '\n' ∉ line := by
  rw [lines_eq_front ha]
  intro line hmem
  rcases List.mem_append.mp hmem with hfront | hrest
  · exact newline_not_mem_frontLines hlines line hfront
  · rcases List.mem_cons.mp hrest with rfl | hback
    · exact newline_not_mem_text a .fmtp
    · obtain ⟨kind, _, rfl⟩ := List.mem_map.mp hback
      exact newline_not_mem_text a kind

/-- **The parameters of the stream are read as they were announced.** -/
theorem readSdpDescription_stream {settings : SdpSettings} {sps pps : NalUnit} {profile : Bytes}
    (h : Accepted settings sps pps profile) (hlines : OnItsLines settings)
    (hwidth : settings.width ≠ 0) (hheight : settings.height ≠ 0) :
    ∃ d, readSdpDescription stod
        (unlines (settings.lines (settings.port + 1) profile sps pps)) = .ok d
      ∧ TellsStream settings sps pps profile d := by
  obtain ⟨a, ha, rfl, rfl, rfl⟩ := exists_quiet h hlines hwidth hheight
  obtain ⟨front, hfront⟩ :=
    foldlM_exists_ok stod (readLine_frontLines stod ha) { settings := unreadSettings }
  obtain ⟨d, hd, htells⟩ := foldlM_fmtp stod ha front
  refine ⟨d, ?_, htells⟩
  rw [readSdpDescription, getLines_unlines (newline_not_mem_lines ha hlines), lines_eq_front ha,
    List.foldlM_append, hfront]
  exact hd

end Ipmx.Sdp
