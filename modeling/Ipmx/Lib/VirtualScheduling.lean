/-
Ipmx.Lib.VirtualScheduling — the virtual scheduling form of a leaky bucket.

A bucket is the theoretical arrival time `tat` of its next arrival. Serving an
arrival of some `cost` at time `t` moves it to `charge tat t cost`; an arrival
conforms to the tolerance `tau` if it is served no earlier than `tat - tau`.
`Admits.window` is what conformance buys: over every window the cost served is
at most the time it took plus the tolerance.

A counter that drains by whole ticks is such a bucket as well, with the tick
count in the place of time (`add_drain`), and `charge_tick_le` compares the
two: a tick counter started at an epoch stays behind the bucket it observes,
by the lateness of the observation at most.
-/
import Mathlib.Algebra.BigOperators.Intervals
import Mathlib.Algebra.Order.Group.Nat

namespace Ipmx.Lib.VirtualScheduling

/-! ## Conforming runs -/

section Run

variable {α : Type*} [AddCommMonoid α] [LinearOrder α] [IsOrderedAddMonoid α]

/-- The theoretical arrival time after serving `cost` at time `t`. -/
def charge (tat t cost : α) : α := max tat t + cost

theorem add_le_charge_left (tat t cost : α) : tat + cost ≤ charge tat t cost :=
  add_le_add_left (le_max_left tat t) cost

theorem add_le_charge_right (tat t cost : α) : t + cost ≤ charge tat t cost :=
  add_le_add_left (le_max_right tat t) cost

/-- A conforming arrival leaves the bucket at most its tolerance and its cost ahead. -/
theorem charge_le {tat t cost tau : α} (htau : 0 ≤ tau) (h : tat ≤ t + tau) :
    charge tat t cost ≤ t + tau + cost :=
  add_le_add_left (max_le h (le_add_of_nonneg_right htau)) cost

/-- The first `n` arrivals of a run: `tat k` is the theoretical arrival time that arrival `k`
is held against, at `t k` and with cost `c k`. Between two arrivals it may only be put off. -/
structure Admits (tau : α) (tat t c : ℕ → α) (n : ℕ) : Prop where
  conforms : ∀ k < n, tat k ≤ t k + tau
  charged : ∀ k, k + 1 < n → charge (tat k) (t k) (c k) ≤ tat (k + 1)

/-- The cost of a window is still owed at its end. -/
theorem Admits.add_sum_le {tau : α} {tat t c : ℕ → α} {n : ℕ} (h : Admits tau tat t c n)
    {i j : ℕ} (hij : i ≤ j) (hj : j + 1 < n) :
    t i + ∑ k ∈ Finset.Ico i (j + 1), c k ≤ tat (j + 1) := by
  induction j, hij using Nat.le_induction with
  | base =>
    simpa using (add_le_charge_right _ _ _).trans (h.charged i hj)
  | succ j hij ih =>
    have hstep := (add_le_charge_left _ _ _).trans (h.charged (j + 1) hj)
    rw [Finset.sum_Ico_succ_top (by omega), ← add_assoc]
    exact (add_le_add_left (ih (by omega)) _).trans hstep

/-- **No window serves more than its length and the tolerance.** -/
theorem Admits.window {tau : α} {tat t c : ℕ → α} {n : ℕ} (h : Admits tau tat t c n)
    (htau : 0 ≤ tau) {i j : ℕ} (hij : i ≤ j) (hj : j < n) :
    t i + ∑ k ∈ Finset.Ico i j, c k ≤ t j + tau := by
  obtain rfl | hlt := hij.eq_or_lt
  · simpa using le_add_of_nonneg_right htau
  · obtain ⟨m, rfl⟩ : ∃ m, j = m + 1 := ⟨j - 1, by omega⟩
    exact (h.add_sum_le (by omega) hj).trans (h.conforms _ hj)

end Run

/-! ## Tick counters -/

/-- A level drained by the ticks since the last look, and the ticks so far: their sum is a
bucket in ticks. -/
theorem add_drain (level : ℕ) {last now : ℕ} (h : last ≤ now) :
    now + (level - (now - last)) = max (last + level) now := by
  omega

/-- A tick counter started at `epoch` with ticks of length `step` stays behind the bucket it
observes, up to the lateness of the observation. -/
theorem charge_tick_le {epoch step lateness counter ticks tat t : ℕ}
    (hcounter : epoch + counter * step ≤ tat + lateness)
    (hticks : epoch + ticks * step ≤ t + lateness) :
    epoch + charge counter ticks 1 * step ≤ charge tat t step + lateness := by
  have hcharge : epoch + charge counter ticks 1 * step
      = max (epoch + counter * step) (epoch + ticks * step) + step := by
    unfold charge
    rcases le_total counter ticks with hle | hle
    · have := Nat.mul_le_mul_right step hle
      rw [max_eq_right hle, max_eq_right (by omega), Nat.add_mul]
      omega
    · have := Nat.mul_le_mul_right step hle
      rw [max_eq_left hle, max_eq_left (by omega), Nat.add_mul]
      omega
  rw [hcharge]
  unfold charge
  omega

end Ipmx.Lib.VirtualScheduling
