/-
Ipmx.Sdp.MakeSdpTheorems — what `make_sdp` has checked when it returns.
-/
import Ipmx.Sdp.MakeSdp

namespace Ipmx.Sdp

open H264
open Ipmx.Lib

/-- The smallest rate has room for 128 kbit/s of overhead. -/
theorem minimumIpBitrateKbps_ne_zero {elementaryBitrateKbps : UInt32} {maximumUdpBytes : UInt16}
    {minimum : UInt32}
    (h : minimumIpBitrateKbps elementaryBitrateKbps maximumUdpBytes = .ok minimum) :
    minimum ≠ 0 := by
  unfold minimumIpBitrateKbps at h
  obtain ⟨_, h⟩ := rejectIf_bind_eq_ok.mp h
  obtain ⟨hle, h⟩ := rejectIf_bind_eq_ok.mp h
  obtain rfl := Except.ok.inj h
  have hoverhead : ∀ x y : Nat, 128 ≤ x + max 128 y := by
    intro x y
    exact (le_max_left 128 y).trans (Nat.le_add_left _ _)
  intro hzero
  have hvalue := congrArg UInt32.toNat hzero
  rw [UInt32.toNat_ofNat_of_lt' (Nat.lt_succ_of_le (not_lt.mp hle))] at hvalue
  have hpositive := hoverhead elementaryBitrateKbps.toNat
    (max ((elementaryBitrateKbps + 9) / 10).toNat
      ((elementaryBitrateKbps.toNat * 58 + maximumUdpBytes.toNat - 31)
        / (maximumUdpBytes.toNat - 30)))
  rw [hvalue] at hpositive
  exact absurd hpositive (by simp)

/-- The checks behind a text of `make_sdp`. -/
structure Accepted (settings : SdpSettings) (sps pps : NalUnit) (profile : Bytes) : Prop where
  numerator_ne_zero : settings.fpsNumerator ≠ 0
  denominator_ne_zero : settings.fpsDenominator ≠ 0
  refclk_ne_nil : settings.tsRefclk ≠ []
  port_valid : isValidIpmxMediaPort settings.port = true
  udp_ge : settings.maximumUdpBytes ≥ 64
  udp_le : settings.maximumUdpBytes.toNat ≤ Rtp.kMaximumStandardUdpPayloadBytes
  bitrate_ne_zero : settings.maximumIpBitrateKbps ≠ 0
  sps_conforms : ∃ parsed ∈ parseH264Sps sps, validateIpmxSps parsed settings.format = []
  pps_parsed : (parseH264Pps pps).isSome
  profile_eq : profileLevelId sps = .ok profile

/-- **What `make_sdp` accepts it has checked**, and the text has the lines of the settings. -/
theorem accepted_of_makeSdp {settings : SdpSettings} {sps pps : NalUnit} {text : Bytes}
    (h : makeSdp settings sps pps = .ok text) :
    ∃ profile, Accepted settings sps pps profile
      ∧ text = unlines (settings.lines (settings.port + 1) profile sps pps) := by
  unfold makeSdp at h
  obtain ⟨hrate, h⟩ := rejectIf_bind_eq_ok.mp h
  obtain ⟨hclocks, h⟩ := rejectIf_bind_eq_ok.mp h
  obtain ⟨_, hport, h⟩ := bind_eq_ok.mp h
  obtain ⟨hudp, h⟩ := rejectIf_bind_eq_ok.mp h
  obtain ⟨minimum, hminimum, h⟩ := bind_eq_ok.mp h
  obtain ⟨hbitrate, h⟩ := rejectIf_bind_eq_ok.mp h
  split at h
  · next parsedSps parsedPps hsps hpps =>
    obtain ⟨_, h⟩ := rejectIf_bind_eq_ok.mp h
    obtain ⟨hconforms, h⟩ := rejectIf_bind_eq_ok.mp h
    obtain ⟨rtcpPort, hrtcp, h⟩ := bind_eq_ok.mp h
    obtain ⟨profile, hprofile, h⟩ := bind_eq_ok.mp h
    obtain ⟨_, hrtcp⟩ := rejectIf_bind_eq_ok.mp hrtcp
    obtain rfl := Except.ok.inj hrtcp
    obtain rfl := Except.ok.inj h
    simp only [not_or] at hrate hclocks hudp
    have hport : isValidIpmxMediaPort settings.port = true := by
      simpa using rejectIf_eq_ok.mp hport
    have hpositive : settings.maximumIpBitrateKbps ≠ 0 := by
      intro hzero
      have hlt : ¬ settings.maximumIpBitrateKbps.toNat < minimum.toNat := hbitrate
      have hne := minimumIpBitrateKbps_ne_zero hminimum
      rw [hzero] at hlt
      exact hne (UInt32.toNat.inj (Nat.le_zero.mp (not_lt.mp hlt)))
    refine ⟨profile, ?_, rfl⟩
    exact {
      numerator_ne_zero := hrate.1
      denominator_ne_zero := hrate.2
      refclk_ne_nil := hclocks.1
      port_valid := hport
      udp_ge := UInt16.not_lt.mp hudp.1
      udp_le := not_lt.mp hudp.2
      bitrate_ne_zero := hpositive
      sps_conforms := ⟨parsedSps, hsps, not_ne_iff.mp hconforms⟩
      pps_parsed := by rw [hpps]; rfl
      profile_eq := hprofile }
  · cases h

end Ipmx.Sdp
