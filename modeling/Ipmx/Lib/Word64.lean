/-
Ipmx.Lib.Word64 — unsigned 64-bit arithmetic on `Nat`.

A `uint64_t` or a `size_t` is a natural number below `2 ^ 64`; the operations
that can leave that range reduce it here, and each comes with the lemma that
gives back the plain operation when the range is not left.
-/
import Mathlib.Tactic.Linarith

namespace Ipmx.Lib.Word64

/-- One past the largest word. -/
def size : Nat := 2 ^ 64

/-- The largest word. -/
def maximum : Nat := size - 1

/-- Reduction of an unsigned result. -/
def wrap (n : Nat) : Nat := n % size

/-- Unsigned subtraction. -/
def sub (a b : Nat) : Nat := (a + size - b) % size

/-- Unsigned subtraction where it does not wrap. -/
def checkedSub (a b : Nat) : Option Nat :=
  if b ≤ a then some (a - b) else none

/-- Addition that stops at the largest word. -/
def saturatingAdd (a b : Nat) : Nat :=
  if a > maximum - b then maximum else a + b

theorem wrap_of_lt {n : Nat} (h : n < size) : wrap n = n := Nat.mod_eq_of_lt h

theorem sub_of_le {a b : Nat} (hab : b ≤ a) (ha : a < size) : sub a b = a - b := by
  have hsum : a + size - b = (a - b) + size := by omega
  rw [sub, hsum, Nat.add_mod_right, Nat.mod_eq_of_lt (by omega)]

theorem checkedSub_of_le {a b : Nat} (hab : b ≤ a) : checkedSub a b = some (a - b) := if_pos hab

theorem checkedSub_eq_sub {a b : Nat} (hab : b ≤ a) (ha : a < size) :
    checkedSub a b = some (sub a b) := by
  rw [checkedSub_of_le hab, sub_of_le hab ha]

/-- Below the maximum the saturating sum is the sum. -/
theorem saturatingAdd_of_lt {a b : Nat} (h : saturatingAdd a b < maximum) :
    saturatingAdd a b = a + b := by
  unfold saturatingAdd at h ⊢
  split at h
  · exact absurd h (Nat.lt_irrefl _)
  · rw [if_neg (by assumption)]

theorem saturatingAdd_lt {a b : Nat} (h : a + b < maximum) : saturatingAdd a b < maximum := by
  unfold saturatingAdd
  split
  · next hover => omega
  · exact h

end Ipmx.Lib.Word64
