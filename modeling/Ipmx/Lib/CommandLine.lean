/-
Ipmx.Lib.CommandLine — command lines of flags and of keys with values.

A program goes through its arguments once and changes its options at each key.
A `Grammar` says what an argument means: a flag by itself, any other key with
the argument behind it. Two programs that make their settings in the same way,
each on its own options, read a command line alike (`read_map`). So the loop
only has to be known on the map from keys to values (`read_view`), and that map
holds the last value of every key (`given_eq`): neither the order of different
keys nor what a key was given before makes a difference.
-/
import Ipmx.Lib.Check
import Mathlib.Data.List.Induction
import Mathlib.Logic.Function.Basic

namespace Ipmx.Lib.CommandLine

variable {ω κ ε σ τ : Type} {ν : κ → Type}

/-- What the arguments of a program mean. `flag` is `none` for a key with a value behind it. -/
structure Grammar (ω κ : Type) (ν : κ → Type) (ε : Type) where
  flag : ω → Option (Except ε (Sigma ν))
  option : ω → ω → Except ε (Sigma ν)
  missing : ω → ε

namespace Grammar

variable (g : Grammar ω κ ν ε)

/-- The loop over the arguments, with what a setting does to the options. -/
def read (set : ∀ key, ν key → σ → σ) : List ω → σ → Except ε σ
  | [], s => .ok s
  | key :: rest, s =>
    match g.flag key with
    | some setting => do
      let setting ← setting
      read set rest (set setting.1 setting.2 s)
    | none =>
      match rest with
      | [] => .error (g.missing key)
      | value :: rest => do
        let setting ← g.option key value
        read set rest (set setting.1 setting.2 s)

variable {g} {set : ∀ key, ν key → σ → σ}

theorem read_flag {key : ω} {setting : Except ε (Sigma ν)} (h : g.flag key = some setting)
    (rest : List ω) (s : σ) :
    g.read set (key :: rest) s
      = setting >>= fun setting => g.read set rest (set setting.1 setting.2 s) := by
  rw [read.eq_def]
  simp only [h]

theorem read_option {key : ω} (h : g.flag key = none) (value : ω) (rest : List ω) (s : σ) :
    g.read set (key :: value :: rest) s
      = g.option key value >>= fun setting => g.read set rest (set setting.1 setting.2 s) := by
  simp only [read, h]

theorem read_missing {key : ω} (h : g.flag key = none) (s : σ) :
    g.read set [key] s = .error (g.missing key) := by
  simp only [read, h]

variable (g)

/-- Options that correspond do so behind every command line. -/
theorem read_map {set' : ∀ key, ν key → τ → τ} (φ : σ → τ)
    (hset : ∀ key value s, φ (set key value s) = set' key value (φ s)) (args : List ω) (s : σ) :
    (g.read set args s).map φ = g.read set' args (φ s) := by
  fun_induction g.read set args s with
  | case1 s => rfl
  | case2 key rest s setting hflag ih =>
    rw [read_flag hflag]
    cases setting with
    | error e => rfl
    | ok setting => exact (ih setting).trans (by rw [hset]; rfl)
  | case3 key s hflag => rw [read_missing hflag]; rfl
  | case4 key s hflag value rest ih =>
    rw [read_option hflag]
    cases g.option key value with
    | error e => rfl
    | ok setting => exact (ih setting).trans (by rw [hset]; rfl)

/-- The settings of a command line, in their order. -/
def settings (args : List ω) : Except ε (List (Sigma ν)) :=
  g.read (fun key value settings => settings ++ [⟨key, value⟩]) args []

variable [DecidableEq κ]

/-- What a command line gives each key. -/
def given (args : List ω) : Except ε (∀ key, Option (ν key)) :=
  g.read (fun key value found => Function.update found key (some value)) args fun _ => none

/-- Options that are a view of a map from keys to values are read as this map is. -/
theorem read_view (view : (∀ key, Option (ν key)) → σ)
    (hset : ∀ found key value,
      view (Function.update found key (some value)) = set key value (view found))
    (args : List ω) : g.read set args (view fun _ => none) = (g.given args).map view :=
  (g.read_map view (fun key value found => hset found key value) args _).symm

end Grammar

/-! ## Last values -/

variable [DecidableEq κ]

/-- The last value of each key. -/
def lastValue (settings : List (Sigma ν)) : ∀ key, Option (ν key) :=
  settings.foldl (fun found setting => Function.update found setting.1 (some setting.2))
    fun _ => none

theorem lastValue_snoc (settings : List (Sigma ν)) (key : κ) (value : ν key) :
    lastValue (settings ++ [⟨key, value⟩])
      = Function.update (lastValue settings) key (some value) := by
  rw [lastValue, List.foldl_append]
  rfl

/-- A key that is not set has no value. -/
theorem lastValue_eq_none {settings : List (Sigma ν)} {key : κ}
    (h : ∀ setting ∈ settings, setting.1 ≠ key) : lastValue settings key = none := by
  induction settings using List.reverseRecOn with
  | nil => rfl
  | append_singleton settings setting ih =>
    have hne : key ≠ setting.1 := (h setting (by simp)).symm
    rw [lastValue_snoc, Function.update_of_ne hne]
    exact ih fun setting hmem => h setting (List.mem_append_left _ hmem)

/-- A command line gives every key its last value. -/
theorem Grammar.given_eq (g : Grammar ω κ ν ε) (args : List ω) :
    g.given args = (g.settings args).map lastValue :=
  (g.read_map lastValue (fun key value settings => lastValue_snoc settings key value) args
    []).symm

end Ipmx.Lib.CommandLine
