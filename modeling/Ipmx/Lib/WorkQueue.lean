/-
Ipmx.Lib.WorkQueue — a queue with one worker.

Items are put in at the back and taken from the front, one at a time; the item
that was taken is finished, or the worker fails on it. Besides the queue a
`WorkQueue` keeps what has become of the items, and `InOrder` says that all of
them are accounted for in the order they were put in. `load` is the weight of
what is not finished.
-/
import Mathlib.Algebra.BigOperators.Group.List.Basic
import Mathlib.Tactic.Ring

namespace Ipmx.Lib

structure WorkQueue (α : Type) where
  waiting : List α := []
  current : Option α := none
  accepted : List α := []
  finished : List α := []
  failed : Option α := none
deriving DecidableEq, Repr

namespace WorkQueue

variable {α : Type}

/-! ## The operations -/

def push (q : WorkQueue α) (a : α) : WorkQueue α :=
  { q with waiting := q.waiting ++ [a], accepted := q.accepted ++ [a] }

/-- The item `a` moves from the front of the queue to the worker. -/
def take (q : WorkQueue α) (a : α) (rest : List α) : WorkQueue α :=
  { q with waiting := rest, current := some a }

def finish (q : WorkQueue α) (a : α) : WorkQueue α :=
  { q with current := none, finished := q.finished ++ [a] }

def fail (q : WorkQueue α) (a : α) : WorkQueue α :=
  { q with current := none, failed := some a }

/-! ## The order of the items -/

/-- The items taken so far, in the order they were taken. -/
def taken (q : WorkQueue α) : List α :=
  q.finished ++ (q.failed.toList ++ q.current.toList)

/-- Taking an item is what changes the items taken. -/
theorem taken_take {q : WorkQueue α} {a : α} {rest : List α} (hfailed : q.failed = none)
    (hcurrent : q.current = none) : (q.take a rest).taken = q.taken ++ [a] := by
  simp [taken, take, hfailed, hcurrent]

theorem taken_finish {q : WorkQueue α} {a : α} (hfailed : q.failed = none)
    (hcurrent : q.current = some a) : (q.finish a).taken = q.taken := by
  simp [taken, finish, hfailed, hcurrent]

theorem taken_fail {q : WorkQueue α} {a : α} (hfailed : q.failed = none)
    (hcurrent : q.current = some a) : (q.fail a).taken = q.taken := by
  simp [taken, fail, hfailed, hcurrent]

/-- Every item that was accepted is accounted for, in the order of acceptance. -/
def InOrder (q : WorkQueue α) : Prop := q.taken ++ q.waiting = q.accepted

namespace InOrder

variable {q : WorkQueue α} {a : α} {rest : List α}

theorem push (h : q.InOrder) (a : α) : (q.push a).InOrder := by
  show q.taken ++ (q.waiting ++ [a]) = q.accepted ++ [a]
  rw [← List.append_assoc, h]

theorem take (h : q.InOrder) (hfailed : q.failed = none) (hcurrent : q.current = none)
    (hwaiting : q.waiting = a :: rest) : (q.take a rest).InOrder := by
  show (q.take a rest).taken ++ rest = q.accepted
  rw [taken_take hfailed hcurrent, List.append_assoc, List.singleton_append, ← hwaiting, h]

theorem finish (h : q.InOrder) (hfailed : q.failed = none) (hcurrent : q.current = some a) :
    (q.finish a).InOrder := by
  show (q.finish a).taken ++ q.waiting = q.accepted
  rw [taken_finish hfailed hcurrent, h]

theorem fail (h : q.InOrder) (hfailed : q.failed = none) (hcurrent : q.current = some a) :
    (q.fail a).InOrder := by
  show (q.fail a).taken ++ q.waiting = q.accepted
  rw [taken_fail hfailed hcurrent, h]

/-- With nothing waiting, nothing in work and nothing failed, everything is finished. -/
theorem finished_eq (h : q.InOrder) (hfailed : q.failed = none) (hcurrent : q.current = none)
    (hwaiting : q.waiting = []) : q.finished = q.accepted := by
  unfold InOrder taken at h
  rw [hfailed, hcurrent, hwaiting] at h
  simpa using h

end InOrder

/-! ## The weight of what is left -/

variable (weight : α → Nat)

/-- The weight of the items that wait, of the one in work and of the one that failed. -/
def load (q : WorkQueue α) : Nat :=
  ((q.failed.toList ++ (q.current.toList ++ q.waiting)).map weight).sum

variable {q : WorkQueue α} {a : α} {rest : List α}

theorem load_push (a : α) : (q.push a).load weight = q.load weight + weight a := by
  simp [load, push, Nat.add_assoc]

theorem load_take (hcurrent : q.current = none) (hwaiting : q.waiting = a :: rest) :
    (q.take a rest).load weight = q.load weight := by
  simp [load, take, hcurrent, hwaiting]

theorem load_finish (hcurrent : q.current = some a) :
    (q.finish a).load weight + weight a = q.load weight := by
  simp [load, finish, hcurrent]
  omega

theorem load_fail (hfailed : q.failed = none) (hcurrent : q.current = some a) :
    (q.fail a).load weight = q.load weight := by
  simp [load, fail, hfailed, hcurrent]

end WorkQueue

end Ipmx.Lib
