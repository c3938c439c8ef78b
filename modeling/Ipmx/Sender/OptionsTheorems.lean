/-
Ipmx.Sender.OptionsTheorems — what `parse_options` of the sender accepts.

The options are a view of a map from keys to values (`ofGiven`), so that a
command line stands for the last value of each key, and the checks behind the
loop are checks of that view (`parseOptions_iff_lastValue`).
-/
import Ipmx.Sender.Options

namespace Ipmx.Sender.Options

open Ipmx.Lib Ipmx.Lib.CommandLine
open Host Rtp Sdp

/-! ## The loop -/

/-- The options some values stand for, with the defaults of the others. -/
def ofGiven (given : ∀ key : Key, Option key.Value) : Options where
  source := (given .source).getD (ascii "test")
  group := (given .group).getD (ascii "239.255.42.42")
  interfaceAddress := (given .interface).getD (ascii "0.0.0.0")
  port := (given .port).getD (5004 : UInt16)
  width := (given .width).getD (1280 : UInt32)
  height := (given .height).getD (720 : UInt32)
  fpsNumerator := (given .fps).getD (60 : UInt32)
  fpsDenominator := (given .fpsDenominator).getD (1 : UInt32)
  bitrateKbps := (given .bitrateKbps).getD (4000 : UInt32)
  profile := (given .profile).getD H264Profile.high
  maximumIpBitrateKbps := (given .maxIpBitrateKbps).getD (0 : UInt32)
  durationSeconds := (given .durationSeconds).getD (0 : UInt32)
  maximumUdpBytes := (given .maxudp).getD (1200 : UInt16)
  sdp := (given .sdp).getD (ascii "ipmx.sdp")
  dumpH264 := (given .dumpH264).getD ([] : Bytes)
  dumpPcap := (given .dumpPcap).getD ([] : Bytes)
  metricsCsv := (given .metricsCsv).getD ([] : Bytes)
  metricsJson := (given .metricsJson).getD ([] : Bytes)
  productionCsv := (given .productionCsv).getD ([] : Bytes)
  tsRefclk := (given .tsRefclk).getD ([] : Bytes)
  encoderDelayNs := given .encoderDelayUs
  senderReportsDelayNs := given .senderReportsDelayUs
  accessUnitOffsetNs := given .accessUnitOffsetUs
  latePacketThresholdNs := (given .latePacketThresholdUs).getD (1000000 : UInt64)
  dscp := (given .dscp).getD (36 : UInt8)
  requireTimingCompliance := (given .requireTimingCompliance).isSome

/-- A branch of the loop changes the value of its key. -/
theorem ofGiven_update (given : ∀ key : Key, Option key.Value) (key : Key) (value : key.Value) :
    ofGiven (Function.update given key (some value)) = set key value (ofGiven given) := by
  cases key <;> rfl

theorem read_eq (args : List Bytes) :
    grammar.read set args {} = (grammar.settings args).map fun settings =>
      ofGiven (lastValue settings) := by
  have hview := grammar.read_view ofGiven ofGiven_update args
  rw [grammar.given_eq] at hview
  refine hview.trans ?_
  cases grammar.settings args <;> rfl

/-! ## The checks -/

/-- The checks that only look at one option. -/
structure InRange (o : Options) : Prop where
  source : o.source = ascii "test" ∨ o.source = ascii "stress" ∨ o.source = ascii "screen"
  port : isValidIpmxMediaPort o.port = true
  udp_ge : o.maximumUdpBytes ≥ 64
  udp_le : o.maximumUdpBytes.toNat ≤ kMaximumStandardUdpPayloadBytes
  bitrate_ne_zero : o.bitrateKbps ≠ 0
  threshold_ne_zero : o.latePacketThresholdNs ≠ 0
  dscp_le : o.dscp ≤ 63

/-- The options with the bit rate that is used: the one that is required, if none is given. -/
def withIpBitrate (o : Options) (required : UInt32) : Options :=
  { o with
    maximumIpBitrateKbps :=
      if o.maximumIpBitrateKbps = 0 then required else o.maximumIpBitrateKbps }

theorem withIpBitrate_eq (o : Options) (required : UInt32) :
    (if o.maximumIpBitrateKbps = 0 then { o with maximumIpBitrateKbps := required } else o)
      = o.withIpBitrate required := by
  unfold withIpBitrate
  split <;> rfl

/-- The checks behind the loop. -/
theorem parseOptions_of_read {args : List Bytes} {options o : Options} {warnings : List String}
    (hread : grammar.read set args {} = .ok options) :
    parseOptions args = .ok (o, warnings) ↔
      options.InRange ∧ ∃ required,
        minimumIpBitrateKbps options.bitrateKbps options.maximumUdpBytes = .ok required
          ∧ o = options.withIpBitrate required ∧ required ≤ o.maximumIpBitrateKbps
          ∧ warnings = portWarnings o.port := by
  unfold parseOptions
  rw [hread]
  constructor
  · intro h
    obtain ⟨hsource, h⟩ := rejectIf_bind_eq_ok.mp h
    obtain ⟨_, hport, h⟩ := bind_eq_ok.mp h
    obtain ⟨hudp, h⟩ := rejectIf_bind_eq_ok.mp h
    obtain ⟨hbitrate, h⟩ := rejectIf_bind_eq_ok.mp h
    obtain ⟨hthreshold, h⟩ := rejectIf_bind_eq_ok.mp h
    obtain ⟨hdscp, h⟩ := rejectIf_bind_eq_ok.mp h
    obtain ⟨required, hrequired, h⟩ := bind_eq_ok.mp h
    rw [withIpBitrate_eq] at h
    obtain ⟨hmaximum, h⟩ := rejectIf_bind_eq_ok.mp h
    obtain ⟨rfl, rfl⟩ := Prod.mk.inj (Except.ok.inj h)
    rw [not_or] at hudp
    refine ⟨⟨by tauto, validateIpmxMediaPort_eq_ok.mp (thrown_eq_ok.mp hport),
      UInt16.not_lt.mp hudp.1, not_lt.mp hudp.2, hbitrate, hthreshold, UInt8.not_lt.mp hdscp⟩, ?_⟩
    exact ⟨required, thrown_eq_ok.mp hrequired, rfl, UInt32.not_lt.mp hmaximum, rfl⟩
  · rintro ⟨hrange, required, hrequired, rfl, hmaximum, rfl⟩
    have hsource := hrange.source
    refine rejectIf_bind_eq_ok.mpr ⟨by tauto, ?_⟩
    refine bind_eq_ok.mpr ⟨(), thrown_eq_ok.mpr (validateIpmxMediaPort_eq_ok.mpr hrange.port), ?_⟩
    refine rejectIf_bind_eq_ok.mpr
      ⟨not_or.mpr ⟨UInt16.not_lt.mpr hrange.udp_ge, not_lt.mpr hrange.udp_le⟩, ?_⟩
    refine rejectIf_bind_eq_ok.mpr ⟨hrange.bitrate_ne_zero, ?_⟩
    refine rejectIf_bind_eq_ok.mpr ⟨hrange.threshold_ne_zero, ?_⟩
    refine rejectIf_bind_eq_ok.mpr ⟨UInt8.not_lt.mpr hrange.dscp_le, ?_⟩
    refine bind_eq_ok.mpr ⟨required, thrown_eq_ok.mpr hrequired, ?_⟩
    rw [withIpBitrate_eq]
    exact rejectIf_bind_eq_ok.mpr ⟨UInt32.not_lt.mpr hmaximum, rfl⟩

theorem read_of_parseOptions {args : List Bytes} {answer : Options × List String}
    (h : parseOptions args = .ok answer) : ∃ options, grammar.read set args {} = .ok options := by
  obtain ⟨options, hread, _⟩ := bind_eq_ok.mp h
  exact ⟨options, hread⟩

/-- **What is accepted.** A command line is accepted if and only if all of it is understood, the
last values of its keys are in range and the bit rate they give holds the one that is required.
The options are these values and the defaults of the other keys: neither the order of different
keys nor an earlier value of a key makes a difference. -/
theorem parseOptions_iff_lastValue {args : List Bytes} {o : Options} {warnings : List String} :
    parseOptions args = .ok (o, warnings) ↔
      ∃ settings required, grammar.settings args = .ok settings
        ∧ (ofGiven (lastValue settings)).InRange
        ∧ minimumIpBitrateKbps (ofGiven (lastValue settings)).bitrateKbps
          (ofGiven (lastValue settings)).maximumUdpBytes = .ok required
        ∧ o = (ofGiven (lastValue settings)).withIpBitrate required
        ∧ required ≤ o.maximumIpBitrateKbps ∧ warnings = portWarnings o.port := by
  constructor
  · intro h
    obtain ⟨options, hread⟩ := read_of_parseOptions h
    obtain ⟨hrange, required, hchecks⟩ := (parseOptions_of_read hread).mp h
    rw [read_eq] at hread
    obtain ⟨settings, hsettings, rfl⟩ := map_eq_ok.mp hread
    exact ⟨settings, required, hsettings, hrange, hchecks⟩
  · rintro ⟨settings, required, hsettings, hrange, hchecks⟩
    have hread : grammar.read set args {} = .ok (ofGiven (lastValue settings)) := by
      rw [read_eq]
      exact map_eq_ok.mpr ⟨settings, hsettings, rfl⟩
    exact (parseOptions_of_read hread).mpr ⟨hrange, required, hchecks⟩

/-- What is known of accepted options. -/
structure Accepted (o : Options) : Prop extends InRange o where
  bitrate : ∃ minimum, minimumIpBitrateKbps o.bitrateKbps o.maximumUdpBytes = .ok minimum
    ∧ minimum ≤ o.maximumIpBitrateKbps

theorem accepted_of_parseOptions {args : List Bytes} {o : Options} {warnings : List String}
    (h : parseOptions args = .ok (o, warnings)) : o.Accepted := by
  obtain ⟨options, hread⟩ := read_of_parseOptions h
  obtain ⟨hrange, required, hrequired, rfl, hmaximum, _⟩ := (parseOptions_of_read hread).mp h
  exact ⟨⟨hrange.source, hrange.port, hrange.udp_ge, hrange.udp_le, hrange.bitrate_ne_zero,
    hrange.threshold_ne_zero, hrange.dscp_le⟩, required, hrequired, hmaximum⟩

end Ipmx.Sender.Options
