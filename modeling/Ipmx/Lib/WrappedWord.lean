/-
Ipmx.Lib.WrappedWord — 32-bit words as remainders of exact integers.

`Wraps word n` says that `word` is `n` modulo `2 ^ 32`. The wrapping operations
keep it, so a word computed from other words is the remainder of what the same
formula gives over the integers, and it is that integer exactly when the
integer fits into a word. Intermediate results may wrap.
-/
import Mathlib.Data.Int.ModEq
import Mathlib.Tactic.Ring

namespace Ipmx.Lib

/-- `word` is the remainder of `n` modulo `2 ^ 32`. -/
def Wraps (word : UInt32) (n : Int) : Prop := Int.ModEq (2 ^ 32) word.toNat n

namespace Wraps

variable {a b : UInt32} {m n : Int}

theorem toNat (a : UInt32) : Wraps a a.toNat := Int.ModEq.refl _

theorem add (ha : Wraps a m) (hb : Wraps b n) : Wraps (a + b) (m + n) := by
  have hsum : ((a + b).toNat : Int) = ((a.toNat : Int) + b.toNat) % 2 ^ 32 := by
    rw [UInt32.toNat_add]
    push_cast
    rfl
  rw [Wraps, hsum]
  exact (Int.mod_modEq _ _).trans (Int.ModEq.add ha hb)

theorem mul (ha : Wraps a m) (hb : Wraps b n) : Wraps (a * b) (m * n) := by
  have hproduct : ((a * b).toNat : Int) = ((a.toNat : Int) * b.toNat) % 2 ^ 32 := by
    rw [UInt32.toNat_mul]
    push_cast
    rfl
  rw [Wraps, hproduct]
  exact (Int.mod_modEq _ _).trans (Int.ModEq.mul ha hb)

theorem sub (ha : Wraps a m) (hb : Wraps b n) : Wraps (a - b) (m - n) := by
  have hdifference : ((a - b).toNat : Int) = ((a.toNat : Int) - b.toNat) % 2 ^ 32 := by
    have hlt := b.toNat_lt
    rw [UInt32.toNat_sub]
    omega
  rw [Wraps, hdifference]
  exact (Int.mod_modEq _ _).trans (Int.ModEq.sub ha hb)

/-- **A word is the exact value where that value fits.** -/
theorem toNat_eq_iff (h : Wraps a n) : (a.toNat : Int) = n ↔ 0 ≤ n ∧ n < 2 ^ 32 := by
  have hlt := a.toNat_lt
  have hmod : (a.toNat : Int) % 2 ^ 32 = n % 2 ^ 32 := h
  constructor
  · intro heq
    omega
  · intro hfits
    omega

end Wraps

end Ipmx.Lib
