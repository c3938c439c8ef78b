/-
Ipmx.Sdp.ValidateSdpTheorems — a report without errors is a conjunction.

`validate_ipmx_sdp` collects errors; `validateIpmxSdp_eq_ok_nil` turns an
empty report into what was required, group by group.
-/
import Ipmx.Lib.Check
import Ipmx.Sdp.ValidateSdp

namespace Ipmx.Sdp

open H264
open Ipmx.Lib

/-- A requirement reports nothing where it is met. -/
theorem require_eq_nil {condition : Prop} [Decidable condition] {message : String} :
    require condition message = [] ↔ condition := by
  unfold require
  split
  · next h => exact iff_of_true rfl h
  · next h => exact iff_of_false (List.cons_ne_nil _ _) h

theorem errorIf_eq_nil {condition : Prop} [Decidable condition] {message : String} :
    errorIf condition message = [] ↔ ¬ condition := by
  unfold errorIf
  split
  · next h => exact iff_of_false (List.cons_ne_nil _ _) (not_not_intro h)
  · next h => exact iff_of_true rfl h

theorem iequals_self (text : Bytes) : iequals text text = true := decide_eq_true rfl

/-- **The report is empty when every group of requirements is met.** -/
theorem validateIpmxSdp_eq_ok_nil {d : SdpDescription} :
    validateIpmxSdp d = .ok [] ↔
      validateMedia d = [] ∧ validateFmtp d = [] ∧ validateClocks d = []
        ∧ (d.sps ≠ [] ∧ d.pps ≠ []) ∧ validateSps d = .ok [] ∧ (parseH264Pps d.pps).isSome := by
  by_cases hsps : d.sps = []
  · have hmissing : require (d.sps ≠ [] ∧ d.pps ≠ []) "missing SPS/PPS parameter sets" ≠ [] :=
      fun h => (require_eq_nil.mp h).1 hsps
    rw [validateIpmxSdp, if_neg (not_not_intro hsps), bind_eq_ok]
    constructor
    · rintro ⟨_, _, h⟩
      have hnil := Except.ok.inj h
      simp only [List.append_eq_nil_iff] at hnil
      exact absurd hnil.1.1.2 hmissing
    · rintro ⟨_, _, _, ⟨hne, _⟩, _⟩
      exact absurd hsps hne
  · rw [validateIpmxSdp, if_pos hsps, bind_eq_ok]
    constructor
    · rintro ⟨spsErrors, herrors, h⟩
      have hnil := Except.ok.inj h
      simp only [List.append_eq_nil_iff, require_eq_nil, errorIf_eq_nil] at hnil
      obtain ⟨⟨⟨⟨⟨hmedia, hfmtp⟩, hclocks⟩, hsets⟩, rfl⟩, hpps⟩ := hnil
      refine ⟨hmedia, hfmtp, hclocks, hsets, herrors, ?_⟩
      exact Option.isSome_iff_ne_none.mpr fun hnone => hpps ⟨hsets.2, by rw [hnone]; rfl⟩
    · rintro ⟨hmedia, hfmtp, hclocks, hsets, herrors, hpps⟩
      refine ⟨[], herrors, congrArg Except.ok ?_⟩
      simp only [List.append_eq_nil_iff, require_eq_nil, errorIf_eq_nil]
      refine ⟨⟨⟨⟨⟨hmedia, hfmtp⟩, hclocks⟩, hsets⟩, trivial⟩, ?_⟩
      rintro ⟨_, hnone⟩
      exact Option.isSome_iff_ne_none.mp hpps (Option.isNone_iff_eq_none.mp hnone)

end Ipmx.Sdp
