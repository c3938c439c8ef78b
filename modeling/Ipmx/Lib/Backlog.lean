/-
Ipmx.Lib.Backlog — the backlog of a queue that is drained between arrivals.

`level` is the recursion that a counter runs: what is there is drained, but not
below nothing, and the arrival comes on top. Unrolled, it is the largest
`excess` of the windows that end with the arrival, what arrived in a window less
what could be drained in it (`level_eq_sup'`). Nothing is assumed of the
arrivals and the drain.
-/
import Mathlib.Algebra.BigOperators.Intervals
import Mathlib.Algebra.Order.Group.MinMax
import Mathlib.Tactic.Abel

namespace Ipmx.Lib.Backlog

variable {α : Type*} [AddCommGroup α] (cost drained : ℕ → α)

/-! ## Windows -/

/-- What the arrivals from `i` to `n` leave of what could be drained from the first to the
last. -/
def excess (i n : ℕ) : α :=
  ∑ k ∈ Finset.Ico i (n + 1), cost k - (drained n - drained i)

theorem excess_self (n : ℕ) : excess cost drained n n = cost n := by
  simp [excess]

theorem excess_succ {i n : ℕ} (h : i ≤ n) :
    excess cost drained i (n + 1)
      = excess cost drained i n - (drained (n + 1) - drained n) + cost (n + 1) := by
  unfold excess
  rw [Finset.sum_Ico_succ_top (by omega)]
  abel

/-! ## The recursion -/

variable [LinearOrder α]

/-- The backlog behind each arrival, where `drained n` could have been drained up to it. -/
def level : ℕ → α
  | 0 => cost 0
  | n + 1 => max 0 (level n - (drained (n + 1) - drained n)) + cost (n + 1)

/-- Some window leaves the backlog: the one since the queue was last empty. -/
theorem exists_excess_eq_level (n : ℕ) :
    ∃ i ≤ n, excess cost drained i n = level cost drained n := by
  induction n with
  | zero => exact ⟨0, le_refl 0, excess_self cost drained 0⟩
  | succ n ih =>
    rw [level]
    rcases le_total (level cost drained n - (drained (n + 1) - drained n)) 0 with hempty | hleft
    · refine ⟨n + 1, le_refl _, ?_⟩
      rw [excess_self, max_eq_left hempty, zero_add]
    · obtain ⟨i, hi, heq⟩ := ih
      refine ⟨i, by omega, ?_⟩
      rw [excess_succ cost drained hi, heq, max_eq_right hleft]

variable [IsOrderedAddMonoid α]

/-- No window leaves more than the backlog. -/
theorem excess_le_level {i n : ℕ} (h : i ≤ n) : excess cost drained i n ≤ level cost drained n := by
  induction n with
  | zero =>
    obtain rfl : i = 0 := by omega
    exact (excess_self cost drained 0).le
  | succ n ih =>
    rw [level]
    obtain rfl | hlt := h.eq_or_lt
    · rw [excess_self]
      exact le_add_of_nonneg_left (le_max_left _ _)
    · have hwindow : i ≤ n := by omega
      rw [excess_succ cost drained hwindow]
      exact add_le_add_left ((sub_le_sub_right (ih hwindow) _).trans (le_max_right _ _)) _

/-- **The backlog is the largest excess of the windows behind it.** -/
theorem level_eq_sup' (n : ℕ) :
    level cost drained n
      = (Finset.range (n + 1)).sup' Finset.nonempty_range_add_one
          fun i => excess cost drained i n := by
  apply le_antisymm
  · obtain ⟨i, hi, heq⟩ := exists_excess_eq_level cost drained n
    rw [← heq]
    exact Finset.le_sup' (fun i => excess cost drained i n) (Finset.mem_range_succ_iff.mpr hi)
  · refine Finset.sup'_le _ _ ?_
    intro i hi
    exact excess_le_level cost drained (Finset.mem_range_succ_iff.mp hi)

end Ipmx.Lib.Backlog
