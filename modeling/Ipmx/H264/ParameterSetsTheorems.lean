/-
Ipmx.H264.ParameterSetsTheorems — the profile of a parsed SPS.

`parse_h264_sps` reads `profile_idc` first and never writes it again, so the
profile of what it returns is the byte behind the header of the NAL unit.
-/
import Ipmx.H264.BitReaderTheorems
import Ipmx.H264.ParameterSets
import Ipmx.H264.Rbsp

namespace Ipmx.H264

open Ipmx.Lib

/-! ## What the VUI leaves alone -/

/-- What stands in front of the VUI and is not written behind it. -/
def H264SpsInfo.coded (sps : H264SpsInfo) : UInt8 × UInt32 × UInt32 :=
  (sps.profileIdc, sps.width, sps.height)

section Vui

variable {coded : UInt8 × UInt32 × UInt32} {sps : H264SpsInfo} (h : sps.coded = coded)

include h

theorem ensuresCoded_colourDescription :
    Ensures (parseColourDescription sps) fun parsed => parsed.coded = coded := by
  unfold parseColourDescription
  refine Ensures.bind_right fun _ => Ensures.bind_right fun _ => ?_
  exact Ensures.bind_right fun _ => Ensures.pure h

theorem ensuresCoded_videoSignalType :
    Ensures (parseVideoSignalType sps) fun parsed => parsed.coded = coded := by
  unfold parseVideoSignalType
  refine Ensures.bind_right fun present => ?_
  split
  · refine Ensures.bind_right fun _ => Ensures.bind_right fun _ => ?_
    refine Ensures.bind_right fun described => ?_
    split
    · exact ensuresCoded_colourDescription h
    · exact Ensures.pure h
  · exact Ensures.pure h

theorem ensuresCoded_timingInfo :
    Ensures (parseTimingInfo sps) fun parsed => parsed.coded = coded := by
  unfold parseTimingInfo
  refine Ensures.bind_right fun present => ?_
  split
  · refine Ensures.bind_right fun _ => Ensures.bind_right fun _ => ?_
    exact Ensures.bind_right fun _ => Ensures.pure h
  · exact Ensures.pure h

theorem ensuresCoded_hrds : Ensures (parseHrds sps) fun parsed => parsed.coded = coded := by
  unfold parseHrds
  refine Ensures.bind_right fun _ => Ensures.optional fun _ => ?_
  refine Ensures.bind_right fun _ => Ensures.optional fun _ => ?_
  exact Ensures.optional fun _ => Ensures.pure h

theorem ensuresCoded_bitstreamRestriction :
    Ensures (parseBitstreamRestriction sps) fun parsed => parsed.coded = coded := by
  unfold parseBitstreamRestriction
  refine Ensures.bind_right fun _ => Ensures.bind_right fun _ => ?_
  refine Ensures.bind_right fun _ => Ensures.bind_right fun _ => ?_
  refine Ensures.bind_right fun _ => Ensures.bind_right fun _ => ?_
  exact Ensures.bind_right fun _ => Ensures.pure h

/-- The VUI changes neither the profile nor the size. -/
theorem ensuresCoded_vui : Ensures (parseVui sps) fun parsed => parsed.coded = coded := by
  unfold parseVui
  refine Ensures.bind_right fun _ => Ensures.bind_right fun _ => ?_
  refine Ensures.bind (ensuresCoded_videoSignalType h) fun signal hsignal => ?_
  refine Ensures.bind_right fun _ => ?_
  refine Ensures.bind (ensuresCoded_timingInfo hsignal) fun timing htiming => ?_
  refine Ensures.bind (ensuresCoded_hrds htiming) fun hrds hhrds => ?_
  refine Ensures.bind_right fun _ => Ensures.bind_right fun restricted => ?_
  split
  · exact ensuresCoded_bitstreamRestriction hhrds
  · exact Ensures.pure hhrds

end Vui

/-! ## The profile -/

section Profile

variable {profile : UInt8}

/-- A reader that returns an SPS of this profile. -/
def EnsuresProfile (profile : UInt8) (reader : BitReader H264SpsInfo) : Prop :=
  Ensures reader fun sps => sps.profileIdc = profile

variable {sps : H264SpsInfo} (h : sps.profileIdc = profile)

include h

theorem ensuresProfile_highProfile : EnsuresProfile profile (parseHighProfile sps) := by
  unfold parseHighProfile
  refine Ensures.bind_right fun _ => Ensures.bind_right fun _ => ?_
  refine Ensures.optional fun _ => ?_
  refine Ensures.bind_right fun _ => Ensures.bind_right fun _ => ?_
  refine Ensures.bind_right fun _ => Ensures.bind_right fun _ => ?_
  refine Ensures.bind_right fun _ => Ensures.bind_right fun _ => ?_
  exact Ensures.skippable (Ensures.pure h)

theorem ensuresProfile_dimensions : EnsuresProfile profile (parseDimensions sps) := by
  unfold parseDimensions
  refine Ensures.bind_right fun _ => Ensures.bind_right fun _ => ?_
  refine Ensures.bind_right fun _ => Ensures.optional fun _ => ?_
  refine Ensures.bind_right fun _ => Ensures.bind_right fun _ => ?_
  exact Ensures.bind_right fun _ => Ensures.pure h

theorem ensuresProfile_vui : EnsuresProfile profile (parseVui sps) := by
  have hcoded : Ensures (parseVui sps) fun parsed => parsed.coded = sps.coded :=
    ensuresCoded_vui rfl
  refine hcoded.imp fun parsed hparsed => ?_
  have hprofile : parsed.profileIdc = sps.profileIdc := congrArg Prod.fst hparsed
  rw [hprofile, h]

end Profile

/-- A byte of the RBSP is read as the number it is. -/
theorem readBits_byte (byte : UInt8) (rest : List Bool) :
    readBits 8 (bitsOf [byte] ++ rest) = some (byte.toUInt32, rest) := by
  have hbits : ∀ byte : UInt8, bitsOf [byte] = BitCode.fixedBits 8 byte.toNat := by
    decide +kernel
  have hnumber : UInt32.ofNat byte.toNat = byte.toUInt32 := by
    simp
  rw [hbits, ← hnumber]
  exact reads_bits (by omega) byte.toNat_lt rest

/-- The first byte of the RBSP is the profile, whatever is read behind it. -/
theorem profileIdc_of_parseSpsData {profile : UInt8} {data : Bytes} {sps : H264SpsInfo}
    {left : List Bool}
    (hrun : parseSpsData (bitsOf (profile :: data)) = some (sps, left)) :
    sps.profileIdc = profile := by
  rw [bitsOf_cons] at hrun
  unfold parseSpsData at hrun
  obtain ⟨profileIdc, middle, hprofile, hrun⟩ := bind_eq_some.mp hrun
  rw [readBits_byte] at hprofile
  obtain ⟨rfl, rfl⟩ := Prod.mk.inj (Option.some.inj hprofile)
  suffices hspec : EnsuresProfile profile _ from hspec _ _ _ hrun
  refine Ensures.bind_right fun _ => Ensures.bind_right fun _ => ?_
  refine Ensures.bind_right fun _ => ?_
  extract_lets start behind
  have hstart : start.profileIdc = profile := by
    simp [start]
  have hbehind : ∀ sps, sps.profileIdc = profile → EnsuresProfile profile (behind sps) := by
    intro sps hsps
    refine Ensures.bind_right fun _ => Ensures.bind_right fun _ => ?_
    refine Ensures.bind_right fun _ => Ensures.bind_right fun _ => ?_
    refine Ensures.bind (ensuresProfile_dimensions hsps) fun sized hsized => ?_
    refine Ensures.bind_right fun present => ?_
    split
    · exact ensuresProfile_vui hsized
    · exact Ensures.pure hsized
  split
  · exact Ensures.bind (ensuresProfile_highProfile hstart) hbehind
  · exact Ensures.bind (Ensures.pure hstart) hbehind

/-- **The profile of a parsed SPS is the byte behind its header.** -/
theorem profileIdc_of_parseH264Sps {header profile : UInt8} {rest : Bytes} {sps : H264SpsInfo}
    (hparse : parseH264Sps (header :: profile :: rest) = some sps) : sps.profileIdc = profile := by
  unfold parseH264Sps rbspFromNal at hparse
  simp only at hparse
  split at hparse
  · cases hparse
  · next rbsp hrbsp =>
    split at hrbsp
    · cases hrbsp
    obtain rfl := Option.some.inj hrbsp
    obtain ⟨⟨parsed, left⟩, hrun, rfl⟩ := Option.map_eq_some_iff.mp hparse
    have hfirst : dropEmulationPrevention 0 (profile :: rest)
        = profile :: dropEmulationPrevention (if profile = 0 then 1 else 0) rest := by
      simp [dropEmulationPrevention]
    rw [hfirst] at hrun
    exact profileIdc_of_parseSpsData hrun

/-! ## The bytes of a parameter set -/

theorem length_dropEmulationPrevention (zeroCount : Nat) (data : Bytes) :
    (dropEmulationPrevention zeroCount data).length ≤ data.length := by
  fun_induction dropEmulationPrevention zeroCount data with
  | case1 => exact Nat.le_refl 0
  | case2 zeroCount byte rest _ ih => exact Nat.le_succ_of_le ih
  | case3 zeroCount byte rest _ ih => exact Nat.succ_le_succ ih

theorem length_bitsOf (bytes : Bytes) : (bitsOf bytes).length = 8 * bytes.length := by
  induction bytes with
  | nil => rfl
  | cons byte bytes ih =>
    have hbyte : bitsOf (byte :: bytes)
        = (List.range 8).map (fun i => byte.toNat.testBit (7 - i)) ++ bitsOf bytes :=
      List.flatMap_cons
    rw [hbyte, List.length_append, List.length_map, List.length_range, ih, List.length_cons]
    omega

/-- What is read has been there. -/
theorem length_of_readBits {count : Nat} {value : UInt32} {bits rest : List Bool}
    (h : readBits count bits = some (value, rest)) : bits.length = count + rest.length := by
  unfold readBits at h
  split at h
  · cases h
  · next hbounds =>
    obtain ⟨_, rfl⟩ := Prod.mk.inj (Option.some.inj h)
    rw [List.length_drop]
    omega

theorem rbspFromNal_eq_some {nal : NalUnit} {expectedType : UInt8} {rbsp : Bytes}
    (h : rbspFromNal nal expectedType = some rbsp) :
    ∃ header data, nal = header :: data ∧ header &&& 0x1F = expectedType
      ∧ rbsp = dropEmulationPrevention 0 data := by
  unfold rbspFromNal at h
  split at h
  · cases h
  · next header data =>
    split at h
    · cases h
    · next hheader =>
      rw [not_or, not_not, not_not] at hheader
      exact ⟨header, data, rfl, hheader.1, (Option.some.inj h).symm⟩

/-- An SPS that is parsed has its type, and the three bytes of the profile and the level. -/
theorem bytes_of_parseH264Sps {nal : NalUnit} {sps : H264SpsInfo}
    (h : parseH264Sps nal = some sps) :
    ∃ header profile constraints level rest,
      nal = header :: profile :: constraints :: level :: rest ∧ header &&& 0x1F = 7 := by
  unfold parseH264Sps at h
  split at h
  · cases h
  · next rbsp hrbsp =>
    obtain ⟨header, data, rfl, hheader, rfl⟩ := rbspFromNal_eq_some hrbsp
    obtain ⟨⟨parsed, left⟩, hrun, rfl⟩ := Option.map_eq_some_iff.mp h
    unfold parseSpsData at hrun
    obtain ⟨⟨_, bits₁⟩, hfirst, hrun⟩ := Option.bind_eq_some_iff.mp hrun
    obtain ⟨⟨_, bits₂⟩, hsecond, hrun⟩ := Option.bind_eq_some_iff.mp hrun
    obtain ⟨⟨_, bits₃⟩, hthird, _⟩ := Option.bind_eq_some_iff.mp hrun
    have hbits := length_bitsOf (dropEmulationPrevention 0 data)
    have hdropped := length_dropEmulationPrevention 0 data
    have hfirst := length_of_readBits hfirst
    have hsecond := length_of_readBits hsecond
    have hthird := length_of_readBits hthird
    have hlength : 3 ≤ data.length := by omega
    obtain ⟨profile, data, rfl⟩ := List.exists_cons_of_length_pos (by omega : 0 < data.length)
    rw [List.length_cons] at hlength
    obtain ⟨constraints, data, rfl⟩ := List.exists_cons_of_length_pos (by omega : 0 < data.length)
    rw [List.length_cons] at hlength
    obtain ⟨level, rest, rfl⟩ := List.exists_cons_of_length_pos (by omega : 0 < data.length)
    exact ⟨header, profile, constraints, level, rest, rfl, hheader⟩

theorem header_of_parseH264Pps {nal : NalUnit} {pps : H264PpsInfo}
    (h : parseH264Pps nal = some pps) :
    ∃ header rest, nal = header :: rest ∧ header &&& 0x1F = 8 := by
  unfold parseH264Pps at h
  split at h
  · cases h
  · next rbsp hrbsp =>
    obtain ⟨header, data, rfl, hheader, _⟩ := rbspFromNal_eq_some hrbsp
    exact ⟨header, data, rfl, hheader⟩

end Ipmx.H264
