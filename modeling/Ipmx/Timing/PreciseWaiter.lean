/-
Ipmx.Timing.PreciseWaiter — `PreciseWaiter` of `timing.cpp`.

The clock is the list of its readings to come, each with the answer of
`SetWaitableTimerEx` behind it. What `wait_until` asks of the system between two
readings is recorded. The waiter returns behind the first reading that has
reached the deadline, and no pause it asks for ends behind the deadline
(`waitUntil_punctual`).
-/
import Ipmx.Lib.Word64
import Mathlib.Data.List.Basic

namespace Ipmx.Timing

open Ipmx.Lib

/-- The fields of `PreciseWaiter::State`; `timer` says if there is one. -/
structure PreciseWaiter where
  spinWindowNs : Nat
  timer : Bool
  highResolution : Bool
deriving DecidableEq, Repr

/-- A reading of `qpc_now_ns`, and if a timer can be set after it. -/
structure ClockReading where
  nowNs : Nat
  timerSet : Bool := true
deriving DecidableEq, Repr

/-- What the waiter asks of the system. -/
inductive Pause
  | timer (hundredNs : Nat)
  | sleep (ns : Nat)
deriving DecidableEq, Repr

def Pause.durationNs : Pause → Nat
  | timer hundredNs => 100 * hundredNs
  | sleep ns => ns

/-- The readings behind the first one that has reached the deadline. -/
def readUntil (deadlineNs : Nat) : List Nat → Option (List Nat)
  | [] => none
  | nowNs :: clock => if nowNs ≥ deadlineNs then some clock else readUntil deadlineNs clock

theorem readUntil_eq_some {deadlineNs : Nat} {clock rest : List Nat}
    (h : readUntil deadlineNs clock = some rest) :
    ∃ early reached, clock = early ++ reached :: rest ∧ deadlineNs ≤ reached
      ∧ ∀ nowNs ∈ early, nowNs < deadlineNs := by
  induction clock with
  | nil => cases h
  | cons nowNs clock ih =>
    rw [readUntil] at h
    split at h
    · next hreached =>
      obtain rfl := Option.some.inj h
      exact ⟨[], nowNs, rfl, hreached, fun _ hmem => by cases hmem⟩
    · next hearly =>
      obtain ⟨early, reached, rfl, hreached, hbefore⟩ := ih h
      refine ⟨nowNs :: early, reached, rfl, hreached, ?_⟩
      rintro t (_ | ⟨_, hmem⟩)
      · exact Nat.not_le.mp hearly
      · exact hbefore t hmem

/-- A clock that comes to the deadline ends the wait. -/
theorem readUntil_isSome {deadlineNs nowNs : Nat} {clock : List Nat} (hmem : nowNs ∈ clock)
    (hreached : deadlineNs ≤ nowNs) : (readUntil deadlineNs clock).isSome := by
  induction clock with
  | nil => cases hmem
  | cons first clock ih =>
    rw [readUntil]
    split
    · rfl
    · next hearly =>
      rcases List.mem_cons.mp hmem with rfl | hlater
      · exact absurd hreached hearly
      · exact ih hlater

namespace PreciseWaiter

/-- The constructor, with the outcomes of the two attempts to create a timer. -/
def new (spinWindowNs : Nat) (highResolution fallback : Bool) : PreciseWaiter where
  spinWindowNs := max 10000 (min spinWindowNs 500000)
  timer := highResolution || fallback
  highResolution := highResolution

/-- The loop at the end of a wait, which yields between its readings. -/
def spin (deadlineNs : Nat) : List ClockReading → Option (List ClockReading)
  | [] => none
  | reading :: clock =>
    if reading.nowNs < deadlineNs then spin deadlineNs clock else some clock

/-- `wait_until`: the pauses, each with the reading it was asked for at, and the readings that
are left. -/
def waitUntil (w : PreciseWaiter) (deadlineNs : Nat) :
    List ClockReading → Option (List (Nat × Pause) × List ClockReading)
  | [] => none
  | reading :: clock =>
    if reading.nowNs ≥ deadlineNs then some ([], clock)
    else
      let remainingNs := deadlineNs - reading.nowNs
      let pause (asked : Pause) :=
        (w.waitUntil deadlineNs clock).map fun (pauses, rest) =>
          ((reading.nowNs, asked) :: pauses, rest)
      if w.timer ∧ remainingNs > w.spinWindowNs ∧ reading.timerSet then
        let hundredNs := max 1 ((remainingNs - w.spinWindowNs) / 100)
        pause (.timer (min hundredNs (2 ^ 63 - 1)))
      else if remainingNs > Word64.wrap (w.spinWindowNs + 1000000) then
        pause (.sleep (remainingNs - w.spinWindowNs))
      else
        (spin deadlineNs clock).map fun rest => ([], rest)

theorem spin_readings (deadlineNs : Nat) (clock : List ClockReading) :
    (spin deadlineNs clock).map (List.map ClockReading.nowNs)
      = readUntil deadlineNs (clock.map ClockReading.nowNs) := by
  induction clock with
  | nil => rfl
  | cons reading clock ih =>
    rw [spin, List.map_cons, readUntil]
    by_cases hearly : reading.nowNs < deadlineNs
    · rw [if_pos hearly, if_neg (Nat.not_le.mpr hearly)]
      exact ih
    · rw [if_neg hearly, if_pos (Nat.not_lt.mp hearly)]
      rfl

/-- Whatever is done between them, the readings are those up to the deadline. -/
theorem waitUntil_readings (w : PreciseWaiter) (deadlineNs : Nat) (clock : List ClockReading) :
    (w.waitUntil deadlineNs clock).map (fun result => result.2.map ClockReading.nowNs)
      = readUntil deadlineNs (clock.map ClockReading.nowNs) := by
  induction clock with
  | nil => rfl
  | cons reading clock ih =>
    rw [waitUntil, List.map_cons, readUntil]
    split
    · rfl
    · dsimp only
      split
      · rw [Option.map_map]
        exact ih
      · split
        · rw [Option.map_map]
          exact ih
        · rw [Option.map_map, ← spin_readings]
          rfl

/-- The clamp of the constructor. -/
structure Clamped (w : PreciseWaiter) : Prop where
  least : 10000 ≤ w.spinWindowNs
  most : w.spinWindowNs ≤ 500000

theorem new_clamped (spinWindowNs : Nat) (highResolution fallback : Bool) :
    (new spinWindowNs highResolution fallback).Clamped := by
  constructor
  · exact le_max_left _ _
  · show max 10000 (min spinWindowNs 500000) ≤ 500000
    omega

/-- The timer is asked for whole units of 100 ns, at least one. -/
theorem timer_early {w : PreciseWaiter} {deadlineNs nowNs : Nat}
    (hremaining : deadlineNs - nowNs > w.spinWindowNs) :
    nowNs + (Pause.timer (min (max 1 ((deadlineNs - nowNs - w.spinWindowNs) / 100))
      (2 ^ 63 - 1))).durationNs + w.spinWindowNs < deadlineNs + 100 := by
  have hunits := Nat.div_mul_le_self (deadlineNs - nowNs - w.spinWindowNs) 100
  rw [Pause.durationNs]
  omega

/-- No pause that is asked for ends less than the spin window, and 100 ns, before the deadline. -/
theorem waitUntil_pauses {w : PreciseWaiter} (hclamped : w.Clamped) {deadlineNs : Nat}
    {clock rest : List ClockReading} {pauses : List (Nat × Pause)}
    (h : w.waitUntil deadlineNs clock = some (pauses, rest)) :
    ∀ asked ∈ pauses, asked.1 + asked.2.durationNs + w.spinWindowNs < deadlineNs + 100 := by
  induction clock generalizing pauses with
  | nil => cases h
  | cons reading clock ih =>
    rw [waitUntil] at h
    split at h
    · obtain ⟨rfl, _⟩ := Prod.mk.inj (Option.some.inj h)
      exact fun _ hmem => by cases hmem
    · dsimp only at h
      have hpause : ∀ asked : Pause,
          reading.nowNs + asked.durationNs + w.spinWindowNs < deadlineNs + 100 →
          (w.waitUntil deadlineNs clock).map (fun result =>
            ((reading.nowNs, asked) :: result.1, result.2)) = some (pauses, rest) →
          ∀ asked ∈ pauses, asked.1 + asked.2.durationNs + w.spinWindowNs < deadlineNs + 100 := by
        intro asked hasked hmap
        obtain ⟨⟨later, rest'⟩, hlater, hresult⟩ := Option.map_eq_some_iff.mp hmap
        obtain ⟨rfl, rfl⟩ := Prod.mk.inj hresult
        rintro other (_ | ⟨_, hmem⟩)
        · exact hasked
        · exact ih hlater other hmem
      split at h
      · next htimer => exact hpause _ (timer_early htimer.2.1) h
      · split at h
        · next hfar =>
          have hmost := hclamped.most
          rw [Word64.wrap_of_lt (by simp only [Word64.size]; omega)] at hfar
          refine hpause (.sleep _) ?_ h
          rw [Pause.durationNs]
          omega
        · obtain ⟨rest', _, hresult⟩ := Option.map_eq_some_iff.mp h
          obtain ⟨rfl, _⟩ := Prod.mk.inj hresult
          exact fun _ hmem => by cases hmem

/-- **A wait is punctual.** It ends behind the first reading that has reached the deadline, and
it does end if there is one. No pause it asks for ends later than 9900 ns before the deadline, so
that only the system can make it late. -/
theorem waitUntil_punctual (spinWindowNs : Nat) (highResolution fallback : Bool)
    (deadlineNs : Nat) (clock : List ClockReading) :
    ((∃ reading ∈ clock, deadlineNs ≤ reading.nowNs) →
        ((new spinWindowNs highResolution fallback).waitUntil deadlineNs clock).isSome)
      ∧ ∀ pauses rest,
        (new spinWindowNs highResolution fallback).waitUntil deadlineNs clock
            = some (pauses, rest) →
          (∃ early reached, clock.map ClockReading.nowNs
              = early ++ reached :: rest.map ClockReading.nowNs
            ∧ deadlineNs ≤ reached ∧ ∀ nowNs ∈ early, nowNs < deadlineNs)
          ∧ ∀ asked ∈ pauses, asked.1 + asked.2.durationNs + 9900 < deadlineNs := by
  have hreadings := (new spinWindowNs highResolution fallback).waitUntil_readings deadlineNs clock
  constructor
  · rintro ⟨reading, hmem, hreached⟩
    have hsome := readUntil_isSome (List.mem_map_of_mem hmem) hreached
    rwa [← hreadings, Option.isSome_map] at hsome
  · intro pauses rest h
    rw [h, Option.map_some] at hreadings
    refine ⟨readUntil_eq_some hreadings.symm, fun asked hasked => ?_⟩
    have hclamped := new_clamped spinWindowNs highResolution fallback
    have hleast := hclamped.least
    have hpause := waitUntil_pauses hclamped h asked hasked
    omega

/-- A wait of a millisecond: the timer sleeps through most of it, and the rest is spun. -/
example : (new 100000 true false).waitUntil 1000000 [⟨0, true⟩, ⟨950000, true⟩, ⟨999999, true⟩,
      ⟨1000007, true⟩, ⟨1000009, true⟩]
    = some ([(0, .timer 9000)], [⟨1000009, true⟩]) := by
  decide

end PreciseWaiter
end Ipmx.Timing
