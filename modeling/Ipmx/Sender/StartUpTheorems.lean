/-
Ipmx.Sender.StartUpTheorems — where the sender's start-up can still fail.

Behind `parse_options` and the constructor of the encoder, nearly every check
of the library repeats one that has been passed. `startUp_iff` names the two
that do not: the PPS must name the SPS of the encoder, and the delays must fit.
-/
import Ipmx.H264.ParameterSetsTheorems
import Ipmx.Sdp.RoundTrip
import Ipmx.Sender.OptionsTheorems
import Ipmx.Sender.ProductionTheorems
import Ipmx.Sender.StartUp
import Ipmx.Timing.TrafficShaperTheorems

namespace Ipmx.Sender

open H264 Host
open Ipmx.Lib
open Options (parseOptions)
open Rtcp Rtp Sdp Timing

/-! ## The encoder -/

/-- What an encoder has passed. -/
structure X264Encoder.Checked (settings : EncoderSettings) (e : X264Encoder) : Prop where
  settings_eq : e.settings = settings
  width : settings.width ≠ 0 ∧ settings.width &&& 1 = 0
  height : settings.height ≠ 0 ∧ settings.height &&& 1 = 0
  numerator_ne_zero : settings.fpsNumerator ≠ 0
  denominator_ne_zero : settings.fpsDenominator ≠ 0
  sps_conforms : ∃ parsed ∈ parseH264Sps e.sps, validateIpmxSps parsed settings.format = []
  pps_parsed : (parseH264Pps e.pps).isSome

theorem X264Encoder.checked_of_new? {settings : EncoderSettings} {opening : X264Opening}
    {e : X264Encoder} (h : X264Encoder.new? settings opening = .ok e) : e.Checked settings := by
  unfold X264Encoder.new? at h
  obtain ⟨hsettings, h⟩ := rejectIf_bind_eq_ok.mp h
  obtain ⟨_, h⟩ := rejectIf_bind_eq_ok.mp h
  obtain ⟨_, h⟩ := rejectIf_bind_eq_ok.mp h
  obtain ⟨_, h⟩ := rejectIf_bind_eq_ok.mp h
  split at h
  · cases h
  · next payloads _ =>
    obtain ⟨_, h⟩ := rejectIf_bind_eq_ok.mp h
    split at h
    · next parsedSps parsedPps hsps hpps =>
      obtain ⟨herrors, h⟩ := rejectIf_bind_eq_ok.mp h
      obtain rfl := Except.ok.inj h
      simp only [not_or, not_not] at hsettings
      obtain ⟨hwidth, hheight, hwidthEven, hheightEven, hnumerator, hdenominator⟩ := hsettings
      have hconforms := (List.append_eq_nil_iff.mp (not_ne_iff.mp herrors)).1
      exact ⟨rfl, ⟨hwidth, hwidthEven⟩, ⟨hheight, hheightEven⟩, hnumerator, hdenominator,
        ⟨parsedSps, hsps, hconforms⟩, by rw [hpps]; rfl⟩
    · cases h

/-- The PPS of the encoder names its SPS. -/
def X264Encoder.NamesItsSps (e : X264Encoder) : Prop :=
  ∃ sps ∈ parseH264Sps e.sps, ∃ pps ∈ parseH264Pps e.pps, pps.spsId = sps.spsId

/-! ## The delays -/

namespace Options

variable (o : Options)

/-- The encoder delay that is used: three frame periods, if none is given. -/
def encoderDelay : Nat :=
  (o.encoderDelayNs.map UInt64.toNat).getD
    (min Word64.maximum (3 * ((1000000000 * o.fpsDenominator.toNat + o.fpsNumerator.toNat - 1)
      / o.fpsNumerator.toNat)))

/-- The report is not sent behind the encoder delay, and the first time stamp of a session leaves
room for both delays in 64 bits. -/
def DelaysFit : Prop :=
  (o.senderReportsDelayNs.map UInt64.toNat).getD o.encoderDelay ≤ o.encoderDelay
    ∧ o.encoderDelay + (o.accessUnitOffsetNs.getD 1000000).toNat < Word64.maximum

instance : Decidable o.DelaysFit := inferInstanceAs (Decidable (_ ∧ _))

end Options

theorem makeIpmxFrameSchedule_isSome
    {encoderDelayNs senderReportsDelayNs accessUnitOffsetNs : Nat} :
    (∃ schedule, makeIpmxFrameSchedule 1 encoderDelayNs senderReportsDelayNs accessUnitOffsetNs
        = .ok schedule)
      ↔ senderReportsDelayNs ≤ encoderDelayNs
        ∧ encoderDelayNs + accessUnitOffsetNs < Word64.maximum := by
  unfold makeIpmxFrameSchedule
  split
  · next hbad =>
    refine iff_of_false (fun ⟨_, h⟩ => nomatch h) ?_
    omega
  · next hgood =>
    refine iff_of_true ⟨_, rfl⟩ ?_
    omega

theorem resolveIpmxSessionTiming_isSome {o : Options} (hnumerator : o.fpsNumerator ≠ 0)
    (hdenominator : o.fpsDenominator ≠ 0) :
    (∃ timing, resolveIpmxSessionTiming o.fpsNumerator o.fpsDenominator o.encoderDelayNs
        o.senderReportsDelayNs (o.accessUnitOffsetNs.getD 1000000) = .ok timing)
      ↔ o.DelaysFit := by
  have hdefault : ∀ periodNs : Nat,
      (if periodNs > Word64.maximum / 3 then Word64.maximum else periodNs * 3)
        = min Word64.maximum (3 * periodNs) := by
    intro periodNs
    split <;> omega
  unfold resolveIpmxSessionTiming Options.DelaysFit
  rw [← makeIpmxFrameSchedule_isSome, Options.encoderDelay, ← hdefault]
  constructor
  · rintro ⟨timing, h⟩
    obtain ⟨_, h⟩ := rejectIf_bind_eq_ok.mp h
    obtain ⟨schedule, hschedule, _⟩ := bind_eq_ok.mp h
    exact ⟨schedule, hschedule⟩
  · rintro ⟨schedule, hschedule⟩
    refine exists_rejectIf_bind_ok.mpr ⟨not_or.mpr ⟨hnumerator, hdenominator⟩, ?_⟩
    exact exists_bind_ok.mpr ⟨schedule, hschedule, _, rfl⟩

/-! ## The description and the transmitter -/

/-- The checks of `make_sdp`, but for the one that the PPS names the SPS. -/
structure Describable (settings : SdpSettings) (sps pps : NalUnit) : Prop where
  numerator_ne_zero : settings.fpsNumerator ≠ 0
  denominator_ne_zero : settings.fpsDenominator ≠ 0
  refclk_ne_nil : settings.tsRefclk ≠ []
  clock_ne_nil : settings.mediaClock ≠ []
  source_ne_nil : settings.sourceAddress ≠ []
  port_valid : isValidIpmxMediaPort settings.port = true
  udp_ge : settings.maximumUdpBytes ≥ 64
  udp_le : settings.maximumUdpBytes.toNat ≤ kMaximumStandardUdpPayloadBytes
  bitrate : ∃ minimum, minimumIpBitrateKbps settings.targetBitrateKbps settings.maximumUdpBytes
      = .ok minimum ∧ minimum ≤ settings.maximumIpBitrateKbps
  sps_conforms : ∃ parsed ∈ parseH264Sps sps, validateIpmxSps parsed settings.format = []
  pps_parsed : (parseH264Pps pps).isSome

theorem makeSdp_isSome {settings : SdpSettings} {sps pps : NalUnit}
    (h : Describable settings sps pps) :
    (∃ text, makeSdp settings sps pps = .ok text)
      ↔ ∃ s ∈ parseH264Sps sps, ∃ p ∈ parseH264Pps pps, p.spsId = s.spsId := by
  obtain ⟨minimum, hminimum, hbitrate⟩ := h.bitrate
  obtain ⟨parsedSps, hparsedSps, hconforms⟩ := h.sps_conforms
  obtain ⟨parsedPps, hparsedPps⟩ := Option.isSome_iff_exists.mp h.pps_parsed
  have hparsedSps : parseH264Sps sps = some parsedSps := hparsedSps
  obtain ⟨header, profile, constraints, level, rest, rfl, hheader⟩ :=
    bytes_of_parseH264Sps hparsedSps
  unfold makeSdp
  rw [hparsedSps, hparsedPps]
  constructor
  · rintro ⟨text, h⟩
    obtain ⟨_, h⟩ := rejectIf_bind_eq_ok.mp h
    obtain ⟨_, h⟩ := rejectIf_bind_eq_ok.mp h
    obtain ⟨_, _, h⟩ := bind_eq_ok.mp h
    obtain ⟨_, h⟩ := rejectIf_bind_eq_ok.mp h
    obtain ⟨_, _, h⟩ := bind_eq_ok.mp h
    obtain ⟨_, h⟩ := rejectIf_bind_eq_ok.mp h
    obtain ⟨hid, _⟩ := rejectIf_bind_eq_ok.mp h
    exact ⟨parsedSps, rfl, parsedPps, rfl, not_ne_iff.mp hid⟩
  · rintro ⟨s, hs, p, hp, hid⟩
    obtain rfl := Option.some.inj hs
    obtain rfl := Option.some.inj hp
    have hport := validateIpmxMediaPort_eq_ok (u := ()).mpr h.port_valid
    refine exists_rejectIf_bind_ok.mpr
      ⟨not_or.mpr ⟨h.numerator_ne_zero, h.denominator_ne_zero⟩, ?_⟩
    refine exists_rejectIf_bind_ok.mpr
      ⟨not_or.mpr ⟨h.refclk_ne_nil, not_or.mpr ⟨h.clock_ne_nil, h.source_ne_nil⟩⟩, ?_⟩
    refine exists_bind_ok.mpr ⟨(), hport, ?_⟩
    refine exists_rejectIf_bind_ok.mpr
      ⟨not_or.mpr ⟨UInt16.not_lt.mpr h.udp_ge, not_lt.mpr h.udp_le⟩, ?_⟩
    refine exists_bind_ok.mpr ⟨minimum, hminimum, ?_⟩
    refine exists_rejectIf_bind_ok.mpr ⟨UInt32.not_lt.mpr hbitrate, ?_⟩
    refine exists_rejectIf_bind_ok.mpr ⟨not_ne_iff.mpr hid, ?_⟩
    refine exists_rejectIf_bind_ok.mpr ⟨not_ne_iff.mpr hconforms, ?_⟩
    refine exists_bind_ok.mpr ⟨settings.port + 1, bind_eq_ok.mpr ⟨(), hport, rfl⟩, ?_⟩
    exact exists_bind_ok.mpr ⟨_, if_neg (not_ne_iff.mpr hheader), _, rfl⟩

/-! ## The start-up -/

theorem clockReference_ne_nil {windows : Windows} {o : Options} {sourceAddress reference : Bytes}
    (h : StartUp.clockReference windows o sourceAddress = .ok reference) : reference ≠ [] := by
  unfold StartUp.clockReference at h
  split at h
  · have hlength := (Windows.localMacReference_ok h).2
    intro hnil
    rw [hnil] at hlength
    cases hlength
  · next hgiven =>
    obtain rfl := Except.ok.inj h
    exact hgiven

/-- What is there when the session is opened: the options, the size of the pictures, the encoder,
the addresses and the files. -/
structure Prepared (answers : Answers) (args : List Bytes) (o : Options) (size : UInt32 × UInt32)
    (encoder : X264Encoder) (sourceAddress tsRefclk : Bytes) : Prop where
  parsed : ∃ warnings, parseOptions args = .ok (o, warnings)
  sized : StartUp.sourceSize answers.monitor o = .ok size
  opened : X264Encoder.new? (StartUp.encoderSettings o size) answers.x264 = .ok encoder
  resolved : answers.windows.resolveIpv4SourceAddress o.group o.port o.interfaceAddress
    = .ok sourceAddress
  referenced : StartUp.clockReference answers.windows o sourceAddress = .ok tsRefclk
  sdpCreatable : answers.creatable o.sdp = true
  sdpWritten : answers.sdpWritten = true
  dumpCreatable : o.dumpH264 ≠ [] → answers.creatable o.dumpH264 = true
  productionCreatable : o.productionCsv ≠ [] → answers.creatable o.productionCsv = true

variable {answers : Answers} {args : List Bytes} {o : Options} {size : UInt32 × UInt32}
variable {encoder : X264Encoder} {sourceAddress tsRefclk : Bytes}

theorem Prepared.accepted (h : Prepared answers args o size encoder sourceAddress tsRefclk) :
    o.Accepted := by
  obtain ⟨warnings, hparsed⟩ := h.parsed
  exact Options.accepted_of_parseOptions hparsed

theorem Prepared.describable (h : Prepared answers args o size encoder sourceAddress tsRefclk)
    (hdotted : answers.windows.DottedDecimal) (ssrc : UInt32) :
    Describable (StartUp.session o size sourceAddress tsRefclk ssrc).sdpSettings encoder.sps
      encoder.pps := by
  have haccepted := h.accepted
  have hchecked := X264Encoder.checked_of_new? h.opened
  have clock_ne_nil : ascii "direct=0" ≠ [] := by decide
  exact {
    numerator_ne_zero := hchecked.numerator_ne_zero
    denominator_ne_zero := hchecked.denominator_ne_zero
    refclk_ne_nil := clockReference_ne_nil h.referenced
    clock_ne_nil := clock_ne_nil
    source_ne_nil := (dotted_of_resolveIpv4SourceAddress hdotted h.resolved).1
    port_valid := haccepted.port
    udp_ge := haccepted.udp_ge
    udp_le := haccepted.udp_le
    bitrate := haccepted.bitrate
    sps_conforms := hchecked.sps_conforms
    pps_parsed := hchecked.pps_parsed }

theorem makeIpmxH264MediaInfo_isSome {sps pps : NalUnit} {parsedSps : H264SpsInfo}
    (hsps : parseH264Sps sps = some parsedSps) (hpps : (parseH264Pps pps).isSome) :
    ∃ info, makeIpmxH264MediaInfo sps pps = .ok info := by
  obtain ⟨header, profile, constraints, level, rest, rfl, hheader⟩ := bytes_of_parseH264Sps hsps
  obtain ⟨parsedPps, hparsedPps⟩ := Option.isSome_iff_exists.mp hpps
  obtain ⟨ppsHeader, ppsRest, rfl, hppsHeader⟩ := header_of_parseH264Pps hparsedPps
  exact ⟨_, if_neg (not_or.mpr ⟨not_ne_iff.mpr hheader, not_ne_iff.mpr hppsHeader⟩)⟩

/-- The transmitter starts if its delays fit: its other checks have been passed. -/
theorem Prepared.makeFrameTransmitter_isSome
    (h : Prepared answers args o size encoder sourceAddress tsRefclk) (ssrc : UInt32)
    (h264 : IpmxH264MediaInfo) (wallReferenceNs qpcReferenceNs : Nat) :
    (∃ transmitter, makeFrameTransmitter ((StartUp.session o size sourceAddress tsRefclk
        ssrc).transmitterSettings h264) wallReferenceNs qpcReferenceNs = .ok transmitter)
      ↔ o.DelaysFit := by
  have haccepted := h.accepted
  have hchecked := X264Encoder.checked_of_new? h.opened
  rw [← resolveIpmxSessionTiming_isSome hchecked.numerator_ne_zero hchecked.denominator_ne_zero]
  unfold makeFrameTransmitter
  constructor
  · rintro ⟨transmitter, hmade⟩
    obtain ⟨_, hmade⟩ := rejectIf_bind_eq_ok.mp hmade
    obtain ⟨_, hmade⟩ := rejectIf_bind_eq_ok.mp hmade
    obtain ⟨_, _, hmade⟩ := bind_eq_ok.mp hmade
    obtain ⟨_, hmade⟩ := rejectIf_bind_eq_ok.mp hmade
    obtain ⟨timing, htiming, _⟩ := bind_eq_ok.mp hmade
    exact ⟨timing, htiming⟩
  · rintro ⟨timing, htiming⟩
    have hqueue : ¬ (8 : Nat) = 0 := by decide
    refine exists_rejectIf_bind_ok.mpr ⟨hqueue, ?_⟩
    refine exists_rejectIf_bind_ok.mpr
      ⟨not_or.mpr ⟨haccepted.threshold_ne_zero, UInt8.not_lt.mpr haccepted.dscp_le⟩, ?_⟩
    refine exists_bind_ok.mpr ⟨(), validateIpmxMediaPort_eq_ok.mpr haccepted.port, ?_⟩
    refine exists_rejectIf_bind_ok.mpr
      ⟨not_or.mpr ⟨hchecked.numerator_ne_zero, hchecked.denominator_ne_zero⟩, ?_⟩
    exact exists_bind_ok.mpr ⟨timing, htiming, _, rfl⟩

theorem Prepared.openPacketizer_isSome
    (h : Prepared answers args o size encoder sourceAddress tsRefclk) :
    ∃ packetizer, StartUp.openPacketizer answers o = .ok packetizer := by
  have hge : 64 ≤ o.maximumUdpBytes.toNat := UInt16.le_iff_toNat_le.mp h.accepted.udp_ge
  have hle := h.accepted.udp_le
  have hrange : ¬ (o.maximumUdpBytes.toNat < 64
      ∨ o.maximumUdpBytes.toNat > kMaximumStandardUdpPayloadBytes ∨ kH264PayloadType > 127) :=
    not_or.mpr ⟨not_lt.mpr hge, not_or.mpr ⟨not_lt.mpr hle, by decide⟩⟩
  unfold StartUp.openPacketizer RtpPacketizer.new?
  rw [dif_neg hrange]
  exact ⟨_, rfl⟩

/-- The worker opens its shaper and its tracker. -/
theorem Prepared.shaper_isSome
    (h : Prepared answers args o size encoder sourceAddress tsRefclk) :
    ∃ shaper tracker,
      Tr107TrafficShaper.new? o.maximumIpBitrateKbps o.maximumUdpBytes 100000000 = some shaper
        ∧ NetworkCompatibilityTracker.new? shaper.maximumPacketsPerSecond shaper.cmax
          NetworkCompatibilityTracker.defaultBetaNumerator
          NetworkCompatibilityTracker.defaultBetaDenominator = some tracker := by
  have hudp : 64 ≤ o.maximumUdpBytes.toNat := UInt16.le_iff_toNat_le.mp h.accepted.udp_ge
  obtain ⟨minimum, hminimum, hle⟩ := h.accepted.bitrate
  have hbitrate : 0 < o.maximumIpBitrateKbps.toNat := by
    have hpositive : 0 < minimum.toNat :=
      Nat.pos_of_ne_zero fun hzero =>
        minimumIpBitrateKbps_ne_zero hminimum (UInt32.toNat.inj hzero)
    exact hpositive.trans_le (UInt32.le_iff_toNat_le.mp hle)
  have hdrift : (100000000 : UInt64).toNat = 100000000 := rfl
  have hshaper : ∃ shaper, Tr107TrafficShaper.new? o.maximumIpBitrateKbps o.maximumUdpBytes
      100000000 = some shaper := by
    unfold Tr107TrafficShaper.new?
    rw [dif_neg (by omega)]
    exact ⟨_, rfl⟩
  obtain ⟨shaper, hshaper⟩ := hshaper
  have hrate := shaper.maximumPacketsPerSecond_pos
  have hcmax := shaper.cmax_ge
  have htracker : ∃ tracker, NetworkCompatibilityTracker.new? shaper.maximumPacketsPerSecond
      shaper.cmax NetworkCompatibilityTracker.defaultBetaNumerator
      NetworkCompatibilityTracker.defaultBetaDenominator = some tracker := by
    have hbeta : NetworkCompatibilityTracker.defaultBetaNumerator ≠ 0
        ∧ NetworkCompatibilityTracker.defaultBetaDenominator ≠ 0 := by decide
    unfold NetworkCompatibilityTracker.new?
    rw [if_neg (by omega)]
    dsimp only
    split
    · exact ⟨_, rfl⟩
    · exact ⟨_, rfl⟩
  obtain ⟨tracker, htracker⟩ := htracker
  exact ⟨shaper, tracker, hshaper, htracker⟩

/-! ## The session -/

/-- What is there when the session is open: the description, the media info and the transmitter. -/
structure Opened (answers : Answers) (o : Options) (encoder : X264Encoder)
    (packetizer : RtpPacketizer) (session : Session) (launch : Launch) : Prop where
  sdpCreatable : answers.creatable o.sdp = true
  sdpWritten : answers.sdpWritten = true
  dumpCreatable : o.dumpH264 ≠ [] → answers.creatable o.dumpH264 = true
  productionCreatable : o.productionCsv ≠ [] → answers.creatable o.productionCsv = true
  described : makeSdp session.sdpSettings encoder.sps encoder.pps = .ok launch.description
  transmitting : ∃ h264, makeIpmxH264MediaInfo encoder.sps encoder.pps = .ok h264
    ∧ makeFrameTransmitter (session.transmitterSettings h264) answers.wallReferenceNs
      answers.qpcReferenceNs = .ok launch.transmitter
  launch_eq : launch = {
    options := o
    encoder, packetizer, session
    description := launch.description
    transmitter := launch.transmitter
    initialTimestamp := answers.initialTimestamp }

theorem openSession_eq_ok {answers : Answers} {o : Options} {encoder : X264Encoder}
    {packetizer : RtpPacketizer} {session : Session} {launch : Launch} :
    StartUp.openSession answers o encoder packetizer session = .ok launch
      ↔ Opened answers o encoder packetizer session launch := by
  unfold StartUp.openSession
  constructor
  · intro h
    obtain ⟨hsdp, h⟩ := rejectIf_bind_eq_ok.mp h
    obtain ⟨description, hdescription, h⟩ := bind_eq_ok.mp h
    obtain ⟨hwritten, h⟩ := rejectIf_bind_eq_ok.mp h
    obtain ⟨hdump, h⟩ := rejectIf_bind_eq_ok.mp h
    obtain ⟨h264, hh264, h⟩ := bind_eq_ok.mp h
    obtain ⟨transmitter, htransmitter, h⟩ := bind_eq_ok.mp h
    obtain ⟨hproduction, h⟩ := rejectIf_bind_eq_ok.mp h
    obtain rfl := Except.ok.inj h
    exact {
      sdpCreatable := not_not.mp hsdp
      sdpWritten := not_not.mp hwritten
      dumpCreatable := fun hgiven => by_contra fun hnot => hdump ⟨hgiven, hnot⟩
      productionCreatable := fun hgiven => by_contra fun hnot => hproduction ⟨hgiven, hnot⟩
      described := thrown_eq_ok.mp hdescription
      transmitting := ⟨h264, thrown_eq_ok.mp hh264, thrown_eq_ok.mp htransmitter⟩
      launch_eq := rfl }
  · intro h
    obtain ⟨h264, hh264, htransmitter⟩ := h.transmitting
    refine rejectIf_bind_eq_ok.mpr ⟨not_not_intro h.sdpCreatable, ?_⟩
    refine bind_eq_ok.mpr ⟨launch.description, thrown_eq_ok.mpr h.described, ?_⟩
    refine rejectIf_bind_eq_ok.mpr ⟨not_not_intro h.sdpWritten, ?_⟩
    refine rejectIf_bind_eq_ok.mpr ⟨fun hdump => hdump.2 (h.dumpCreatable hdump.1), ?_⟩
    refine bind_eq_ok.mpr ⟨h264, thrown_eq_ok.mpr hh264, ?_⟩
    refine bind_eq_ok.mpr ⟨launch.transmitter, thrown_eq_ok.mpr htransmitter, ?_⟩
    refine rejectIf_bind_eq_ok.mpr
      ⟨fun hproduction => hproduction.2 (h.productionCreatable hproduction.1), ?_⟩
    exact congrArg Except.ok h.launch_eq.symm

/-- The steps of a start-up in front of the session. -/
theorem startUp_eq_ok {launch : Launch} :
    startUp answers args = .ok launch ↔
      ∃ o warnings size encoder packetizer sourceAddress tsRefclk,
        parseOptions args = .ok (o, warnings)
          ∧ StartUp.sourceSize answers.monitor o = .ok size
          ∧ X264Encoder.new? (StartUp.encoderSettings o size) answers.x264 = .ok encoder
          ∧ StartUp.openPacketizer answers o = .ok packetizer
          ∧ answers.windows.resolveIpv4SourceAddress o.group o.port o.interfaceAddress
            = .ok sourceAddress
          ∧ StartUp.clockReference answers.windows o sourceAddress = .ok tsRefclk
          ∧ StartUp.openSession answers o encoder packetizer
            (StartUp.session o size sourceAddress tsRefclk packetizer.ssrc) = .ok launch := by
  unfold startUp
  constructor
  · intro h
    obtain ⟨parsed, hparsed, h⟩ := bind_eq_ok.mp h
    obtain ⟨size, hsize, h⟩ := bind_eq_ok.mp h
    obtain ⟨encoder, hencoder, h⟩ := bind_eq_ok.mp h
    obtain ⟨packetizer, hpacketizer, h⟩ := bind_eq_ok.mp h
    obtain ⟨sourceAddress, hsource, h⟩ := bind_eq_ok.mp h
    obtain ⟨tsRefclk, hrefclk, h⟩ := bind_eq_ok.mp h
    exact ⟨parsed.1, parsed.2, size, encoder, packetizer, sourceAddress, tsRefclk, hparsed, hsize,
      thrown_eq_ok.mp hencoder, hpacketizer, hsource, hrefclk, h⟩
  · rintro ⟨o, warnings, size, encoder, packetizer, sourceAddress, tsRefclk, hparsed, hsize,
      hencoder, hpacketizer, hsource, hrefclk, h⟩
    refine bind_eq_ok.mpr ⟨(o, warnings), hparsed, ?_⟩
    refine bind_eq_ok.mpr ⟨size, hsize, ?_⟩
    refine bind_eq_ok.mpr ⟨encoder, thrown_eq_ok.mpr hencoder, ?_⟩
    refine bind_eq_ok.mpr ⟨packetizer, hpacketizer, ?_⟩
    refine bind_eq_ok.mpr ⟨sourceAddress, hsource, ?_⟩
    exact bind_eq_ok.mpr ⟨tsRefclk, hrefclk, h⟩

/-- A sender that has started was prepared, and its description is that of its session. -/
theorem prepared_of_startUp {launch : Launch} (h : startUp answers args = .ok launch) :
    ∃ size sourceAddress tsRefclk,
      Prepared answers args launch.options size launch.encoder sourceAddress tsRefclk
        ∧ Opened answers launch.options launch.encoder launch.packetizer
          (StartUp.session launch.options size sourceAddress tsRefclk launch.packetizer.ssrc)
          launch := by
  obtain ⟨o, warnings, size, encoder, packetizer, sourceAddress, tsRefclk, hparsed, hsize,
    hencoder, hpacketizer, hsource, hrefclk, h⟩ := startUp_eq_ok.mp h
  have hopened := openSession_eq_ok.mp h
  have hoptions : launch.options = o := congrArg Launch.options hopened.launch_eq
  have hencoder' : launch.encoder = encoder := congrArg Launch.encoder hopened.launch_eq
  have hpacketizer' : launch.packetizer = packetizer :=
    congrArg Launch.packetizer hopened.launch_eq
  rw [hoptions, hencoder', hpacketizer']
  refine ⟨size, sourceAddress, tsRefclk, ?_, hopened⟩
  exact ⟨⟨warnings, hparsed⟩, hsize, hencoder, hsource, hrefclk, hopened.sdpCreatable,
    hopened.sdpWritten, hopened.dumpCreatable, hopened.productionCreatable⟩

/-! ## A start-up on the loopback -/

/-- A host with one adapter, whose address is the loopback one. -/
def loopbackWindows : Windows where
  inetPton text :=
    if text = ascii "0.0.0.0" then some 0
    else if text = ascii "127.0.0.1" then some 0x7F000001
    else if text = ascii "239.255.42.42" then some 0xEFFF2A2A
    else none
  inetNtop _ := ascii "127.0.0.1"
  sourceAddress _ _ := .ok 0x7F000001
  adapters := some [⟨true, [0x02, 0x00, 0x00, 0x00, 0x00, 0x01], [0x7F000001]⟩]

theorem loopbackWindows_dottedDecimal : loopbackWindows.DottedDecimal := by
  have hany : Dotted (ascii "0.0.0.0") := by decide +kernel
  have hlocal : Dotted (ascii "127.0.0.1") := by decide +kernel
  have hgroup : Dotted (ascii "239.255.42.42") := by decide +kernel
  refine ⟨?_, fun _ => hlocal⟩
  intro text address h
  simp only [loopbackWindows] at h
  split at h
  · next heq => exact heq ▸ hany
  · split at h
    · next heq => exact heq ▸ hlocal
    · split at h
      · next heq => exact heq ▸ hgroup
      · cases h

def loopbackAnswers : Answers where
  windows := loopbackWindows
  monitor := .error (ascii "no monitor")
  x264 := { headers := some [buildAnnexB [referenceSps, referencePps]] }
  ssrc := 0x01020304
  sequence := 0
  initialTimestamp := 0
  creatable _ := true
  wallReferenceNs := 0
  qpcReferenceNs := 0

def loopbackOptions : Options := { maximumIpBitrateKbps := 4400 }

def loopbackEncoder : X264Encoder where
  settings := { width := 1280, height := 720 }
  sps := referenceSps
  pps := referencePps

/-- The command line without arguments. -/
theorem prepared_loopback :
    Prepared loopbackAnswers [] loopbackOptions (1280, 720) loopbackEncoder (ascii "127.0.0.1")
      (ascii "localmac=02-00-00-00-00-01") where
  parsed := ⟨[], by decide +kernel⟩
  sized := by decide +kernel
  opened := by decide +kernel
  resolved := by decide +kernel
  referenced := by decide +kernel
  sdpCreatable := rfl
  sdpWritten := rfl
  dumpCreatable _ := rfl
  productionCreatable _ := rfl

theorem loopbackEncoder_namesItsSps : loopbackEncoder.NamesItsSps := by
  obtain ⟨sps, hsps⟩ := Option.isSome_iff_exists.mp
    (show (parseH264Sps referenceSps).isSome = true by decide +kernel)
  obtain ⟨pps, hpps⟩ := Option.isSome_iff_exists.mp
    (show (parseH264Pps referencePps).isSome = true by decide +kernel)
  have hid : (parseH264Pps referencePps).map H264PpsInfo.spsId
      = (parseH264Sps referenceSps).map H264SpsInfo.spsId := by decide +kernel
  rw [hsps, hpps] at hid
  exact ⟨sps, hsps, pps, hpps, Option.some.inj hid⟩

/-! ## Success -/

/-- **When the sender starts.** It starts if and only if its options are accepted, its source,
encoder, addresses and files are at hand, the PPS names the SPS and the delays fit: the
packetizer, the description, the media info and the transmitter check nothing else that has not
been checked. Then the encoder has not encoded yet, and the shaper and the tracker of the worker
open as well. -/
theorem startUp_iff (hdotted : answers.windows.DottedDecimal) :
    ((∃ launch, startUp answers args = .ok launch) ↔
      ∃ o size encoder sourceAddress tsRefclk,
        Prepared answers args o size encoder sourceAddress tsRefclk
          ∧ encoder.NamesItsSps ∧ o.DelaysFit)
      ∧ ∀ launch, startUp answers args = .ok launch → launch.encoder.Fresh ∧ ∃ shaper tracker,
        Tr107TrafficShaper.new? launch.options.maximumIpBitrateKbps
            launch.options.maximumUdpBytes 100000000 = some shaper
          ∧ NetworkCompatibilityTracker.new? shaper.maximumPacketsPerSecond shaper.cmax
            NetworkCompatibilityTracker.defaultBetaNumerator
            NetworkCompatibilityTracker.defaultBetaDenominator = some tracker := by
  refine ⟨⟨?_, ?_⟩, ?_⟩
  · rintro ⟨launch, hlaunch⟩
    obtain ⟨size, sourceAddress, tsRefclk, hprepared, hopened⟩ := prepared_of_startUp hlaunch
    obtain ⟨h264, _, htransmitter⟩ := hopened.transmitting
    have hdescribed := makeSdp_isSome (hprepared.describable hdotted launch.packetizer.ssrc)
    have hdelays := hprepared.makeFrameTransmitter_isSome launch.packetizer.ssrc h264
      answers.wallReferenceNs answers.qpcReferenceNs
    exact ⟨launch.options, size, launch.encoder, sourceAddress, tsRefclk, hprepared,
      hdescribed.mp ⟨_, hopened.described⟩, hdelays.mp ⟨_, htransmitter⟩⟩
  · rintro ⟨o, size, encoder, sourceAddress, tsRefclk, hprepared, hnames, hdelays⟩
    obtain ⟨warnings, hparsed⟩ := hprepared.parsed
    obtain ⟨packetizer, hpacketizer⟩ := hprepared.openPacketizer_isSome
    have hchecked := X264Encoder.checked_of_new? hprepared.opened
    obtain ⟨parsedSps, hsps, _⟩ := hchecked.sps_conforms
    obtain ⟨h264, hh264⟩ := makeIpmxH264MediaInfo_isSome hsps hchecked.pps_parsed
    obtain ⟨description, hdescription⟩ :=
      (makeSdp_isSome (hprepared.describable hdotted packetizer.ssrc)).mpr hnames
    obtain ⟨transmitter, htransmitter⟩ :=
      (hprepared.makeFrameTransmitter_isSome packetizer.ssrc h264 answers.wallReferenceNs
        answers.qpcReferenceNs).mpr hdelays
    refine ⟨{
      options := o
      encoder, packetizer, description, transmitter
      session := StartUp.session o size sourceAddress tsRefclk packetizer.ssrc
      initialTimestamp := answers.initialTimestamp }, startUp_eq_ok.mpr ?_⟩
    refine ⟨o, warnings, size, encoder, packetizer, sourceAddress, tsRefclk, hparsed,
      hprepared.sized, hprepared.opened, hpacketizer, hprepared.resolved, hprepared.referenced, ?_⟩
    exact openSession_eq_ok.mpr ⟨hprepared.sdpCreatable, hprepared.sdpWritten,
      hprepared.dumpCreatable, hprepared.productionCreatable, hdescription,
      ⟨h264, hh264, htransmitter⟩, rfl⟩
  · intro launch hlaunch
    obtain ⟨_, _, _, hprepared, _⟩ := prepared_of_startUp hlaunch
    exact ⟨(X264Encoder.new?_fresh hprepared.opened).1, hprepared.shaper_isSome⟩

theorem startUp_iff_loopback :
    ∃ launch, startUp loopbackAnswers [] = .ok launch ∧ launch.encoder.Fresh := by
  obtain ⟨hiff, hlaunched⟩ := @startUp_iff loopbackAnswers [] loopbackWindows_dottedDecimal
  obtain ⟨launch, hlaunch⟩ := hiff.mpr ⟨loopbackOptions, (1280, 720), loopbackEncoder,
    ascii "127.0.0.1", ascii "localmac=02-00-00-00-00-01", prepared_loopback,
    loopbackEncoder_namesItsSps, by decide⟩
  exact ⟨launch, hlaunch, (hlaunched launch hlaunch).1⟩

end Ipmx.Sender
