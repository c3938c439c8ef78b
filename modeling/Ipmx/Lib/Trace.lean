/-
Ipmx.Lib.Trace — runs of a machine given by its atomic steps.

A machine is a step function on its states; a step that cannot be taken is
`none`. `run` takes the events of an interleaving one after the other, and an
invariant of the steps is one of every run (`run_invariant`), also when the
steps keep it only under a bound that the whole run respects
(`run_invariant_throughout`) or under a condition that every step meets
(`run_invariant_everyStep`), or when it speaks of the events taken so far
(`run_history`). An invariant under which every step can be taken makes the run
a fold (`run_eq_foldl`).
-/
import Mathlib.Data.List.Basic

namespace Ipmx.Lib.Trace

variable {σ ε : Type} (step : σ → ε → Option σ)

/-- The state behind some events, if they can be taken in this order. -/
def run : σ → List ε → Option σ
  | s, [] => some s
  | s, event :: events => (step s event).bind fun next => run next events

variable {step}

theorem run_cons_eq_some {s last : σ} {event : ε} {events : List ε} :
    run step s (event :: events) = some last ↔
      ∃ next, step s event = some next ∧ run step next events = some last :=
  Option.bind_eq_some_iff

theorem run_cons_of_step {s next : σ} {event : ε} (h : step s event = some next)
    (events : List ε) : run step s (event :: events) = run step next events := by
  rw [run, h, Option.bind_some]

theorem run_append (s : σ) (front back : List ε) :
    run step s (front ++ back) = (run step s front).bind fun middle => run step middle back := by
  induction front generalizing s with
  | nil => rfl
  | cons event front ih =>
    rw [List.cons_append, run, run]
    cases step s event with
    | none => rfl
    | some next => exact ih next

theorem run_append_of_run {s middle : σ} {front : List ε} (h : run step s front = some middle)
    (back : List ε) : run step s (front ++ back) = run step middle back := by
  rw [run_append, h, Option.bind_some]

/-- A block of events that leads from each state of a family to the next. -/
theorem run_blocks {block : List ε} (family : Nat → σ) {count : Nat}
    (hblock : ∀ n < count, run step (family n) block = some (family (n + 1))) :
    run step (family 0) (List.replicate count block).flatten = some (family count) := by
  induction count with
  | zero => rfl
  | succ count ih =>
    have hfront := ih fun n hn => hblock n (Nat.lt_succ_of_lt hn)
    rw [List.replicate_succ', List.flatten_append, run_append_of_run hfront,
      List.flatten_singleton]
    exact hblock count (Nat.lt_succ_self count)

/-- `P` holds in every state that a run passes through. -/
def Throughout (step : σ → ε → Option σ) (P : σ → Prop) (s : σ) (events : List ε) : Prop :=
  ∀ front, front <+: events → ∀ middle, run step s front = some middle → P middle

theorem Throughout.head {P : σ → Prop} {s : σ} {events : List ε}
    (h : Throughout step P s events) : P s :=
  h [] List.nil_prefix s rfl

theorem Throughout.tail {P : σ → Prop} {s next : σ} {event : ε} {events : List ε}
    (h : Throughout step P s (event :: events)) (hstep : step s event = some next) :
    Throughout step P next events := by
  intro front hfront middle hrun
  refine h (event :: front) ((List.prefix_cons_inj event).mpr hfront) middle ?_
  rw [run_cons_of_step hstep]
  exact hrun

/-- What a step keeps between two states in bounds, a run keeps that stays in bounds. -/
theorem run_invariant_throughout (Inv P : σ → Prop)
    (hstep : ∀ s event next, step s event = some next → P next → Inv s → Inv next)
    {s last : σ} {events : List ε} (hinv : Inv s) (hP : Throughout step P s events)
    (hrun : run step s events = some last) : Inv last := by
  induction events generalizing s with
  | nil =>
    obtain rfl := Option.some.inj hrun
    exact hinv
  | cons event events ih =>
    obtain ⟨next, hnext, hrest⟩ := run_cons_eq_some.mp hrun
    have htail := hP.tail hnext
    exact ih (hstep s event next hnext htail.head hinv) htail hrest

/-- What every step keeps, every run keeps. -/
theorem run_invariant (Inv : σ → Prop)
    (hstep : ∀ s event next, step s event = some next → Inv s → Inv next)
    {s last : σ} {events : List ε} (hinv : Inv s) (hrun : run step s events = some last) :
    Inv last :=
  run_invariant_throughout Inv (fun _ => True) (fun s event next h _ => hstep s event next h) hinv
    (fun _ _ _ _ => trivial) hrun

/-- Every step of a run is taken where `P` allows it. -/
def EveryStep (step : σ → ε → Option σ) (P : σ → ε → Prop) : σ → List ε → Prop
  | _, [] => True
  | s, event :: events => P s event ∧ ∀ next ∈ step s event, EveryStep step P next events

instance EveryStep.decidable {P : σ → ε → Prop} [∀ s event, Decidable (P s event)] :
    ∀ s events, Decidable (EveryStep step P s events)
  | _, [] => inferInstanceAs (Decidable True)
  | s, event :: events =>
    have := fun next => EveryStep.decidable (P := P) next events
    inferInstanceAs (Decidable (P s event ∧ ∀ next ∈ step s event, EveryStep step P next events))

theorem EveryStep.append {P : σ → ε → Prop} {s middle : σ} {front back : List ε}
    (hfront : EveryStep step P s front) (hrun : run step s front = some middle)
    (hback : EveryStep step P middle back) : EveryStep step P s (front ++ back) := by
  induction front generalizing s with
  | nil =>
    obtain rfl := Option.some.inj hrun
    exact hback
  | cons event front ih =>
    obtain ⟨next, hnext, hrest⟩ := run_cons_eq_some.mp hrun
    refine ⟨hfront.1, fun other hother => ?_⟩
    obtain rfl := Option.some.inj (hnext.symm.trans hother)
    exact ih (hfront.2 next hnext) hrest

/-- What the steps that `P` allows keep, a run of such steps keeps. -/
theorem run_invariant_everyStep (Inv : σ → Prop) {P : σ → ε → Prop}
    (hstep : ∀ s event next, step s event = some next → P s event → Inv s → Inv next)
    {s last : σ} {events : List ε} (hinv : Inv s) (hP : EveryStep step P s events)
    (hrun : run step s events = some last) : Inv last := by
  induction events generalizing s with
  | nil =>
    obtain rfl := Option.some.inj hrun
    exact hinv
  | cons event events ih =>
    obtain ⟨next, hnext, hrest⟩ := run_cons_eq_some.mp hrun
    exact ih (hstep s event next hnext hP.1 hinv) (hP.2 next hnext) hrest

/-- An invariant that speaks of the events taken so far. -/
theorem run_history (Inv : List ε → σ → Prop)
    (hstep : ∀ past s event next, step s event = some next → Inv past s →
      Inv (past ++ [event]) next)
    {s last : σ} {events : List ε} (hinv : Inv [] s) (hrun : run step s events = some last) :
    Inv events last := by
  have hrest : ∀ past s, Inv past s → run step s events = some last → Inv (past ++ events) last := by
    clear hinv hrun
    intro past s hinv hrun
    induction events generalizing past s with
    | nil =>
      obtain rfl := Option.some.inj hrun
      rwa [List.append_nil]
    | cons event events ih =>
      obtain ⟨next, hnext, hrest⟩ := run_cons_eq_some.mp hrun
      have hlater := ih (past ++ [event]) next (hstep past s event next hnext hinv) hrest
      rwa [List.append_assoc, List.singleton_append] at hlater
  exact hrest [] s hinv hrun

/-- Where the invariant lets every step be taken, a run is a fold. -/
theorem run_eq_foldl (Inv : σ → Prop) (P : ε → Prop) (next : σ → ε → σ)
    (hstep : ∀ s event, Inv s → P event →
      step s event = some (next s event) ∧ Inv (next s event))
    {s : σ} {events : List ε} (hinv : Inv s) (hP : ∀ event ∈ events, P event) :
    run step s events = some (events.foldl next s) ∧ Inv (events.foldl next s) := by
  induction events generalizing s with
  | nil => exact ⟨rfl, hinv⟩
  | cons event events ih =>
    obtain ⟨htaken, hnext⟩ := hstep s event hinv (hP event List.mem_cons_self)
    rw [run_cons_of_step htaken, List.foldl_cons]
    exact ih hnext fun event hmem => hP event (List.mem_cons_of_mem _ hmem)

end Ipmx.Lib.Trace
