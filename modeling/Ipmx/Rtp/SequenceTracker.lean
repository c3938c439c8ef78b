/-
Ipmx.Rtp.SequenceTracker — `SequenceTracker` of `rtp.cpp`.

`missing_` is a map from all 65536 sequence numbers, and the loop over a gap
is a recursion on its length. The 64-bit counters are natural numbers: no run
of packets reaches their end. Behind the model stands the meaning of an
arrival sequence in unbounded numbers, the reference the counters are compared
with.
-/
import Mathlib.Data.Finset.Card

namespace Ipmx.Rtp

/-! ## The tracker -/

structure SequenceStats where
  received : Nat := 0
  lost : Nat := 0
  reordered : Nat := 0
deriving DecidableEq, Repr

structure SequenceTracker where
  initialized : Bool := false
  expected : UInt16 := 0
  missing : UInt16 → Bool := fun _ => false
  stats : SequenceStats := {}

namespace SequenceTracker

/-- The first `distance` rounds of the loop over a gap. -/
def recordGap (t : SequenceTracker) : Nat → SequenceTracker
  | 0 => t
  | offset + 1 =>
    let t := t.recordGap offset
    { t with
      missing := Function.update t.missing (t.expected + UInt16.ofNat offset) true
      stats := { t.stats with lost := t.stats.lost + 1 } }

def observe (t : SequenceTracker) (sequence : UInt16) : SequenceTracker :=
  let t := { t with stats := { t.stats with received := t.stats.received + 1 } }
  if !t.initialized then
    { t with initialized := true, expected := sequence + 1 }
  else
    let distance := (sequence - t.expected).toInt16.toInt
    if distance = 0 then
      { t with missing := Function.update t.missing sequence false, expected := t.expected + 1 }
    else if distance > 0 then
      { t.recordGap distance.toNat with expected := sequence + 1 }
    else
      let t := { t with stats := { t.stats with reordered := t.stats.reordered + 1 } }
      if t.missing sequence then
        { t with
          missing := Function.update t.missing sequence false
          stats :=
            { t.stats with
              lost := if t.stats.lost > 0 then t.stats.lost - 1 else t.stats.lost } }
      else
        t

def observeAll (t : SequenceTracker) (sequences : List UInt16) : SequenceTracker :=
  sequences.foldl observe t

end SequenceTracker

/-! ## Arrivals in unbounded numbers -/

/-- The expected number after one more arrival: one more than the highest so far. -/
def expectedNext (expected u : ℤ) : ℤ :=
  if u < expected then expected else u + 1

def expectedAfter (expected : ℤ) (arrivals : List ℤ) : ℤ :=
  arrivals.foldl expectedNext expected

/-- Every arrival is at most 32768 below and 32767 above the number expected then. -/
def InReach : ℤ → List ℤ → Prop
  | _, [] => True
  | expected, u :: arrivals =>
    expected - 32768 ≤ u ∧ u ≤ expected + 32767 ∧ InReach (expectedNext expected u) arrivals

/-- How many arrivals are below the number expected then. -/
def belowExpected : ℤ → List ℤ → Nat
  | _, [] => 0
  | expected, u :: arrivals =>
    (if u < expected then 1 else 0) + belowExpected (expectedNext expected u) arrivals

/-- The numbers from `first` up to the expected one that are not among the arrivals. -/
def absent (first expected : ℤ) (arrivals : List ℤ) : Finset ℤ :=
  ((Finset.range (expected - first).toNat).image fun k : Nat => first + (k : ℤ)).filter (· ∉ arrivals)

/-- What the counters should say after `first` and the arrivals behind it. -/
structure SequenceStats.Exact (stats : SequenceStats) (first : ℤ) (arrivals : List ℤ) : Prop where
  received : stats.received = (first :: arrivals).length
  reordered : stats.reordered = belowExpected (first + 1) arrivals
  lost : stats.lost
    = (absent first (expectedAfter (first + 1) arrivals) (first :: arrivals)).card

/-- A number arrives once more, while the map still marks its residue as missing. -/
def Mistaken (t : SequenceTracker) (seen : List ℤ) (u : ℤ) : Prop :=
  u ∈ seen ∧ t.missing (UInt16.ofInt u) = true

/-- No arrival is mistaken for a missing number; `seen` has arrived before. -/
def Unmistaken : SequenceTracker → List ℤ → List ℤ → Prop
  | _, _, [] => True
  | t, seen, u :: arrivals =>
    ¬ Mistaken t seen u ∧ Unmistaken (t.observe (UInt16.ofInt u)) (u :: seen) arrivals

end Ipmx.Rtp
