/-
Ipmx.Receiver.OptionsTheorems — where the receiver takes its options from.

An option is the last value of its key, else that of the description, else the
default (`override`), wherever `--sdp` stands among the arguments
(`parseOptions_iff_override`). So a receiver that is given nothing else of the stream
has the description's (`parseOptions_of_described`).
-/
import Ipmx.Receiver.Options

namespace Ipmx.Receiver.Options

open Ipmx.Lib Ipmx.Lib.CommandLine
open Host Sdp

/-! ## The loop -/

/-- Some values in front of those of `base`. -/
def override (base : Options) (given : ∀ key : Key, Option key.Value) : Options where
  group := (given .group).getD base.group
  interfaceAddress := (given .interface).getD base.interfaceAddress
  port := (given .port).getD base.port
  width := (given .width).getD base.width
  height := (given .height).getD base.height
  fpsNumerator := (given .fps).getD base.fpsNumerator
  fpsDenominator := if (given .fps).isSome then 1 else base.fpsDenominator
  durationSeconds := (given .durationSeconds).getD base.durationSeconds
  maximumLatencyMs := (given .maxLatencyMs).getD base.maximumLatencyMs
  localClock := (given .localClock).isSome || base.localClock
  requireZeroLoss := (given .requireZeroLoss).isSome || base.requireZeroLoss
  sdp := (given .sdp).getD base.sdp

/-- A branch of the loop changes the value of its key. -/
theorem override_update (base : Options) (given : ∀ key : Key, Option key.Value) (key : Key)
    (value : key.Value) :
    base.override (Function.update given key (some value))
      = set key value (base.override given) := by
  cases key <;> rfl

theorem read_eq (base : Options) (args : List Bytes) :
    grammar.read set args base = (grammar.settings args).map fun settings =>
      base.override (lastValue settings) := by
  have hview := grammar.read_view base.override base.override_update args
  rw [grammar.given_eq] at hview
  refine hview.trans ?_
  cases grammar.settings args <;> rfl

/-! ## The options -/

variable {files : Bytes → Option Bytes} {stod : Bytes → Except String Float}
variable {args : List Bytes} {o : Options} {warnings : List String}

/-- The checks behind the loop. -/
structure InRange (o : Options) : Prop where
  latency_ne_zero : o.maximumLatencyMs ≠ 0
  port : isValidIpmxMediaPort o.port = true

theorem parseOptions_of_described {base : Options} {settings : List (Sigma Key.Value)}
    (hbase : described files stod args = .ok base)
    (hsettings : grammar.settings args = .ok settings) :
    parseOptions files stod args = .ok (o, warnings) ↔
      o = base.override (lastValue settings) ∧ o.InRange ∧ warnings = portWarnings o.port := by
  have hread : grammar.read set args base = .ok (base.override (lastValue settings)) := by
    rw [read_eq]
    exact map_eq_ok.mpr ⟨settings, hsettings, rfl⟩
  unfold parseOptions
  rw [hbase, Lib.ok_bind, hread, Lib.ok_bind]
  constructor
  · intro h
    obtain ⟨hlatency, h⟩ := rejectIf_bind_eq_ok.mp h
    obtain ⟨_, hport, h⟩ := bind_eq_ok.mp h
    obtain ⟨rfl, rfl⟩ := Prod.mk.inj (Except.ok.inj h)
    exact ⟨rfl, ⟨hlatency, validateIpmxMediaPort_eq_ok.mp (thrown_eq_ok.mp hport)⟩, rfl⟩
  · rintro ⟨rfl, hrange, rfl⟩
    refine rejectIf_bind_eq_ok.mpr ⟨hrange.latency_ne_zero, ?_⟩
    exact bind_eq_ok.mpr
      ⟨(), thrown_eq_ok.mpr (validateIpmxMediaPort_eq_ok.mpr hrange.port), rfl⟩

/-- What a file has to hold for its description to be taken. -/
theorem described_eq_ok {base : Options} :
    described files stod args = .ok base ↔
      (sdpPath args = none ∧ base = {})
        ∨ ∃ path text description, sdpPath args = some path ∧ files path = some text
          ∧ readSdpDescription stod text = .ok description
          ∧ validateIpmxSdp description = .ok [] ∧ base = ofSdp path description.settings := by
  unfold described
  cases hpath : sdpPath args with
  | none =>
    constructor
    · intro h
      exact .inl ⟨rfl, (Except.ok.inj h).symm⟩
    · rintro (⟨_, rfl⟩ | ⟨_, _, _, h, _⟩)
      · rfl
      · cases h
  | some path =>
    constructor
    · intro h
      obtain ⟨description, hread, h⟩ := bind_eq_ok.mp h
      obtain ⟨validation, hvalid, h⟩ := bind_eq_ok.mp h
      obtain ⟨hnil, h⟩ := rejectIf_bind_eq_ok.mp h
      obtain rfl := not_not.mp hnil
      obtain rfl := Except.ok.inj h
      unfold readSdpFile at hread
      cases hfile : files path with
      | none =>
        rw [hfile] at hread
        cases hread
      | some text =>
        rw [hfile] at hread
        exact .inr ⟨path, text, description, rfl, hfile, thrown_eq_ok.mp hread,
          thrown_eq_ok.mp hvalid, rfl⟩
    · rintro (⟨h, _⟩ | ⟨_, text, description, h, hfile, hread, hvalid, rfl⟩)
      · cases h
      · obtain rfl := Option.some.inj h
        have hread : readSdpFile files stod path = .ok description := by
          unfold readSdpFile
          rw [hfile]
          exact thrown_eq_ok.mpr hread
        refine bind_eq_ok.mpr ⟨description, hread, ?_⟩
        refine bind_eq_ok.mpr ⟨[], thrown_eq_ok.mpr hvalid, ?_⟩
        exact rejectIf_bind_eq_ok.mpr ⟨not_not_intro rfl, rfl⟩

/-- **Where the options come from.** A command line is accepted if and only if the description
it names first is a valid one, all of it is understood, and the options are in range. These are
the last values of its keys, else those of the description, else the defaults: an option that is
given counts wherever it stands, also in front of `--sdp`. -/
theorem parseOptions_iff_override :
    parseOptions files stod args = .ok (o, warnings) ↔
      ∃ base settings, grammar.settings args = .ok settings
        ∧ ((sdpPath args = none ∧ base = {})
          ∨ ∃ path text description, sdpPath args = some path ∧ files path = some text
            ∧ readSdpDescription stod text = .ok description
            ∧ validateIpmxSdp description = .ok [] ∧ base = ofSdp path description.settings)
        ∧ o = base.override (lastValue settings) ∧ o.InRange ∧ warnings = portWarnings o.port := by
  constructor
  · intro h
    obtain ⟨base, hbase, hrest⟩ := bind_eq_ok.mp h
    obtain ⟨options, hread, _⟩ := bind_eq_ok.mp hrest
    rw [read_eq] at hread
    obtain ⟨settings, hsettings, _⟩ := map_eq_ok.mp hread
    exact ⟨base, settings, hsettings, described_eq_ok.mp hbase,
      (parseOptions_of_described hbase hsettings).mp h⟩
  · rintro ⟨base, settings, hsettings, hbase, h⟩
    exact (parseOptions_of_described (described_eq_ok.mpr hbase) hsettings).mpr h

end Ipmx.Receiver.Options
