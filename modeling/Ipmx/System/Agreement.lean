/-
Ipmx.System.Agreement — a receiver that is given the sender's description.

The sender writes its description when it starts; a receiver reads it behind
`--sdp`, with a reader and a validator of its own. `agrees_of_startUp` says that
the two are then set up for one stream: the receiver accepts its command line,
if it is understood, leaves the stream to the description and sets no latency
limit of zero.
-/
import Ipmx.Receiver.MfH264Decoder
import Ipmx.Receiver.OptionsTheorems
import Ipmx.Sender.StartUpTheorems

namespace Ipmx.System

open Host Rtp Sdp Sender
open Receiver (MfH264Decoder)
open Receiver.Options (Key override sdpPath described parseOptions parseOptions_of_described
  described_eq_ok ofSdp)
open Ipmx.Lib Ipmx.Lib.CommandLine

/-! ## The description -/

variable {answers : Answers} {args : List Bytes} {launch : Launch}

/-- The group of a session is an address and its clock reference stays on its line: the worker
fails on another group, and the reader on another reference. -/
structure OnOneLine (windows : Windows) (o : Sender.Options) : Prop where
  group : ∃ address, windows.inetPton o.group = some address
  refclk : asciiByte '\n' ∉ o.tsRefclk

theorem newline_not_mem_clockReference {windows : Windows} {o : Sender.Options}
    (hrefclk : asciiByte '\n' ∉ o.tsRefclk) {sourceAddress reference : Bytes}
    (h : StartUp.clockReference windows o sourceAddress = .ok reference) :
    asciiByte '\n' ∉ reference := by
  unfold StartUp.clockReference at h
  split at h
  · exact (Windows.localMacReference_ok h).1.not_mem (by decide)
  · obtain rfl := Except.ok.inj h
    exact hrefclk

/-- What a sender that is prepared announces is read as it was announced. -/
theorem announceable_of_prepared (hdotted : answers.windows.DottedDecimal) {o : Sender.Options}
    (hlines : OnOneLine answers.windows o) {size : UInt32 × UInt32} {encoder : X264Encoder}
    {sourceAddress tsRefclk : Bytes}
    (h : Prepared answers args o size encoder sourceAddress tsRefclk) (ssrc : UInt32) :
    Announceable (StartUp.session o size sourceAddress tsRefclk ssrc).sdpSettings := by
  obtain ⟨address, haddress⟩ := hlines.group
  have hgroup : Dotted o.group := hdotted.pton _ _ haddress
  have hsource : Dotted sourceAddress := dotted_of_resolveIpv4SourceAddress hdotted h.resolved
  have hchecked := X264Encoder.checked_of_new? h.opened
  exact {
    payloadType_le := show kH264PayloadType ≤ 127 by decide
    width_ne_zero := hchecked.width.1
    height_ne_zero := hchecked.height.1
    mediaClock_eq := rfl
    slash_not_mem := hgroup.not_mem (by decide) (by decide)
    newline_not_mem_group := hgroup.not_mem (by decide) (by decide)
    newline_not_mem_refclk := newline_not_mem_clockReference hlines.refclk h.referenced
    newline_not_mem_source := hsource.not_mem (by decide) (by decide) }

/-! ## The two command lines -/

/-- The keys a description gives values for. -/
def streamKeys : List Key := [.group, .port, .width, .height, .fps]

/-- The receiver's options are those of the sender's stream. -/
structure Agrees (launch : Launch) (o : Receiver.Options) : Prop where
  group : o.group = launch.session.group
  port : o.port = launch.session.port
  width : o.width = launch.encoder.settings.width
  height : o.height = launch.encoder.settings.height
  fpsNumerator : o.fpsNumerator = launch.encoder.settings.fpsNumerator
  fpsDenominator : o.fpsDenominator = launch.encoder.settings.fpsDenominator

/-- Keys that are not given leave the stream of the description. -/
theorem agrees_override {base : Receiver.Options} (hbase : Agrees launch base)
    {settings : List (Sigma Key.Value)}
    (hstream : ∀ setting ∈ settings, setting.1 ∉ streamKeys) :
    Agrees launch (base.override (lastValue settings)) := by
  have hnone : ∀ key ∈ streamKeys, lastValue settings key = none := by
    intro key hkey
    refine lastValue_eq_none ?_
    rintro setting hmem rfl
    exact hstream setting hmem hkey
  have hgroup : lastValue settings .group = none := hnone .group (by decide)
  have hport : lastValue settings .port = none := hnone .port (by decide)
  have hwidth : lastValue settings .width = none := hnone .width (by decide)
  have hheight : lastValue settings .height = none := hnone .height (by decide)
  have hfps : lastValue settings .fps = none := hnone .fps (by decide)
  have hdenominator : (base.override (lastValue settings)).fpsDenominator
      = base.fpsDenominator := by
    simp only [override, hfps]
    rfl
  exact {
    group := .trans (by rw [override, hgroup]; rfl) hbase.group
    port := .trans (by rw [override, hport]; rfl) hbase.port
    width := .trans (by rw [override, hwidth]; rfl) hbase.width
    height := .trans (by rw [override, hheight]; rfl) hbase.height
    fpsNumerator := .trans (by rw [override, hfps]; rfl) hbase.fpsNumerator
    fpsDenominator := hdenominator.trans hbase.fpsDenominator }

/-- A latency limit that is not given is the default, which is not zero. -/
theorem latency_ne_zero_of_override {base : Receiver.Options} (hbase : base.maximumLatencyMs = 250)
    {settings : List (Sigma Key.Value)}
    (hlatency : lastValue settings .maxLatencyMs ≠ some (0 : UInt32)) :
    (base.override (lastValue settings)).maximumLatencyMs ≠ 0 := by
  show (lastValue settings .maxLatencyMs).getD base.maximumLatencyMs ≠ (0 : UInt32)
  cases hvalue : lastValue settings .maxLatencyMs with
  | none =>
    rw [hbase]
    show (250 : UInt32) ≠ 0
    decide
  | some value =>
    rintro rfl
    exact hlatency hvalue

/-- A receiver's command line with a flag in front of `--sdp`. -/
def loopbackArgs : List Bytes := [ascii "--local-clock", ascii "--sdp", ascii "ipmx.sdp"]

/-- The file a sender writes. -/
def writtenFile (launch : Launch) (path : Bytes) : Option Bytes :=
  if path = launch.options.sdp then some launch.description else none

def loopbackSettings : List (Sigma Key.Value) := [⟨.localClock, ()⟩, ⟨.sdp, ascii "ipmx.sdp"⟩]

/-- **The receiver is set up for the sender's stream.** The command line of the receiver is
understood; it names the description a sender has written, sets nothing of the stream itself, and
no latency limit of zero. Then it is accepted, with the group, the port, the size and the frame
rate of that sender; and the check in front of its decoder passes. -/
theorem agrees_of_startUp (hdotted : answers.windows.DottedDecimal)
    (hstart : startUp answers args = .ok launch)
    (hlines : OnOneLine answers.windows launch.options) {files : Bytes → Option Bytes}
    {stod : Bytes → Except String Float} {receiverArgs : List Bytes} {path : Bytes}
    (hpath : sdpPath receiverArgs = some path) (hfile : files path = some launch.description)
    {settings : List (Sigma Key.Value)}
    (hsettings : Receiver.Options.grammar.settings receiverArgs = .ok settings)
    (hstream : ∀ setting ∈ settings, setting.1 ∉ streamKeys)
    (hlatency : lastValue settings .maxLatencyMs ≠ some (0 : UInt32)) :
    ∃ o, parseOptions files stod receiverArgs = .ok (o, portWarnings launch.session.port)
      ∧ Agrees launch o
      ∧ ∀ types format, MfH264Decoder.configureOutput o.width o.height types = .ok format →
        ∃ decoder, MfH264Decoder.new? o.width o.height o.fpsNumerator o.fpsDenominator types
          = .ok decoder := by
  obtain ⟨size, sourceAddress, tsRefclk, hprepared, hopened⟩ := prepared_of_startUp hstart
  have hchecked := X264Encoder.checked_of_new? hprepared.opened
  have hannounceable :=
    announceable_of_prepared hdotted hlines hprepared launch.packetizer.ssrc
  have hsession : launch.session = StartUp.session launch.options size sourceAddress tsRefclk
      launch.packetizer.ssrc := congrArg Launch.session hopened.launch_eq
  obtain ⟨d, hread, hannounces, hvalid⟩ :=
    readSdpDescription_makeSdp stod hannounceable hopened.described
  have hbase : described files stod receiverArgs = .ok (ofSdp path d.settings) :=
    described_eq_ok.mpr (.inr ⟨path, launch.description, d, hpath, hfile, hread, hvalid, rfl⟩)
  have hagrees : Agrees launch (ofSdp path d.settings) := {
    group := hsession ▸ hannounces.multicastGroup
    port := hsession ▸ hannounces.port
    width := hchecked.settings_eq ▸ hannounces.width
    height := hchecked.settings_eq ▸ hannounces.height
    fpsNumerator := hchecked.settings_eq ▸ hannounces.fpsNumerator
    fpsDenominator := hchecked.settings_eq ▸ hannounces.fpsDenominator }
  have hoptions := agrees_override hagrees hstream
  refine ⟨(ofSdp path d.settings).override (lastValue settings), ?_, hoptions, ?_⟩
  · refine (parseOptions_of_described hbase hsettings).mpr ⟨rfl, ⟨?_, ?_⟩, ?_⟩
    · exact latency_ne_zero_of_override rfl hlatency
    · rw [hoptions.port, hsession]
      exact hprepared.accepted.port
    · rw [hoptions.port]
  · intro types format hformat
    unfold MfH264Decoder.new?
    refine exists_rejectIf_bind_ok.mpr ⟨?_, exists_bind_ok.mpr ⟨format, hformat, _, rfl⟩⟩
    rw [hoptions.width, hoptions.height, hoptions.fpsNumerator, hoptions.fpsDenominator,
      hchecked.settings_eq]
    exact not_or.mpr ⟨hchecked.width.1, not_or.mpr ⟨hchecked.height.1,
      not_or.mpr ⟨hchecked.numerator_ne_zero, hchecked.denominator_ne_zero⟩⟩⟩

/-- The sender without arguments. -/
theorem agrees_of_startUp_loopback :
    ∃ launch o, startUp loopbackAnswers [] = .ok launch
      ∧ parseOptions (writtenFile launch) (fun _ => .ok 60) loopbackArgs
        = .ok (o, portWarnings launch.session.port)
      ∧ Agrees launch o := by
  have hstarts : (startUp loopbackAnswers []).toOption.isSome = true := by decide +kernel
  obtain ⟨launch, hstart⟩ := exists_of_isSome hstarts
  obtain ⟨_, _, _, hprepared, _⟩ := prepared_of_startUp hstart
  obtain ⟨_, hparsed⟩ := hprepared.parsed
  obtain ⟨_, hloopback⟩ := prepared_loopback.parsed
  have hoptions : launch.options = loopbackOptions :=
    congrArg Prod.fst (Except.ok.inj (hparsed.symm.trans hloopback))
  have hlines : OnOneLine loopbackWindows launch.options := by
    rw [hoptions]
    exact ⟨⟨0xEFFF2A2A, by decide +kernel⟩, by decide⟩
  have hpath : sdpPath loopbackArgs = some (ascii "ipmx.sdp") := by decide +kernel
  have hfile : writtenFile launch (ascii "ipmx.sdp") = some launch.description := by
    rw [writtenFile, hoptions]
    exact if_pos rfl
  have hsettings : Receiver.Options.grammar.settings loopbackArgs = .ok loopbackSettings := by
    with_unfolding_all rfl
  have hstream : ∀ setting ∈ loopbackSettings, setting.1 ∉ .maxLatencyMs :: streamKeys := by
    simp [loopbackSettings, streamKeys]
  have hlimit : lastValue loopbackSettings .maxLatencyMs = none :=
    lastValue_eq_none fun setting hmem heq => hstream setting hmem (heq ▸ List.mem_cons_self)
  have hlatency : lastValue loopbackSettings .maxLatencyMs ≠ some (0 : UInt32) := by
    rw [hlimit]
    nofun
  obtain ⟨o, hparse, hagrees, _⟩ := agrees_of_startUp loopbackWindows_dottedDecimal hstart hlines
    hpath hfile hsettings
    (fun setting hmem hkey => hstream setting hmem (List.mem_cons_of_mem _ hkey)) hlatency
  exact ⟨launch, o, hstart, hparse, hagrees⟩

end Ipmx.System
