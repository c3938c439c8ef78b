/-
Ipmx.Lib.SlidingWindow — the spread of the intervals in a window that slides over
a sequence of times.

The window that ends with a time begins with the last one that is a whole width
behind it (`windowStart`). Windows only move on (`windowStart_mono`), and a
window holds every shorter stretch that ends with it, whose spread is no larger
(`spread_le_peakSpread`).
-/
import Mathlib.Algebra.Order.Monoid.Canonical.Defs
import Mathlib.Algebra.Order.Sub.Defs
import Mathlib.Data.Finset.Lattice.Fold
import Mathlib.Data.Nat.Find
import Mathlib.Order.Interval.Finset.Nat

namespace Ipmx.Lib.SlidingWindow

variable {α : Type*} [LinearOrder α] [AddCommMonoid α]

/-! ## Where a window begins -/

/-- The last index at or before `j` whose time is a whole width behind that of `j`, or 0. -/
def windowStart (t : ℕ → α) (width : α) (j : ℕ) : ℕ :=
  Nat.findGreatest (fun k => t k + width ≤ t j) j

section WindowStart

variable {t : ℕ → α} {width : α} {j k : ℕ}

/-- Once the first time is a whole width behind, everything up to the start is. -/
theorem add_le_of_le_windowStart [IsOrderedAddMonoid α] {n : ℕ} (hmono : MonotoneOn t (Set.Iio n))
    (hj : j < n) (hfirst : t 0 + width ≤ t j) (hk : k ≤ windowStart t width j) :
    t k + width ≤ t j := by
  have hle : windowStart t width j ≤ j := Nat.findGreatest_le j
  have hstart : t (windowStart t width j) + width ≤ t j :=
    Nat.findGreatest_spec (P := fun k => t k + width ≤ t j) (Nat.zero_le j) hfirst
  have hbefore : t k ≤ t (windowStart t width j) :=
    hmono (Set.mem_Iio.mpr (by omega)) (Set.mem_Iio.mpr (by omega)) hk
  exact (add_le_add_left hbefore width).trans hstart

/-- A window is still open at the front as long as it is not as long as its width. -/
theorem windowStart_eq_zero [IsOrderedAddMonoid α] {n : ℕ} (hmono : MonotoneOn t (Set.Iio n))
    (hj : j < n) (hfirst : t j < t 0 + width) : windowStart t width j = 0 := by
  by_contra hne
  have hle : windowStart t width j ≤ j := Nat.findGreatest_le j
  have hstart : t (windowStart t width j) + width ≤ t j := Nat.findGreatest_of_ne_zero rfl hne
  have hbefore : t 0 ≤ t (windowStart t width j) :=
    hmono (Set.mem_Iio.mpr (by omega)) (Set.mem_Iio.mpr (by omega)) (Nat.zero_le _)
  exact hfirst.not_ge ((add_le_add_left hbefore width).trans hstart)

theorem le_windowStart (hkj : k ≤ j) (hbehind : t k + width ≤ t j) : k ≤ windowStart t width j :=
  Nat.le_findGreatest hkj hbehind

/-- A window begins in front of every time that is less than its width behind. -/
theorem windowStart_le [IsOrderedAddMonoid α] {n : ℕ} (hmono : MonotoneOn t (Set.Iio n))
    (hj : j < n) (hshort : t j < t (k + 1) + width) : windowStart t width j ≤ k := by
  by_contra hlt
  by_cases hfirst : t 0 + width ≤ t j
  · exact hshort.not_ge (add_le_of_le_windowStart hmono hj hfirst (Nat.lt_of_not_le hlt))
  · rw [windowStart_eq_zero hmono hj (not_le.mp hfirst)] at hlt
    exact hlt (Nat.zero_le k)

theorem windowStart_lt [IsOrderedCancelAddMonoid α] (hwidth : 0 < width) (hj : 0 < j) :
    windowStart t width j < j := by
  refine lt_of_le_of_ne (Nat.findGreatest_le j) ?_
  intro hlast
  have hbehind : t j + width ≤ t j := Nat.findGreatest_of_ne_zero hlast hj.ne'
  exact (lt_add_of_pos_right (t j) hwidth).not_ge hbehind

theorem windowStart_mono (h : t j ≤ t (j + 1)) :
    windowStart t width j ≤ windowStart t width (j + 1) :=
  Nat.findGreatest_mono (fun _ hk => hk.trans h) (Nat.le_succ j)

end WindowStart

/-! ## The spread of a window -/

variable [Sub α]

/-- The interval behind a time. -/
def interval (t : ℕ → α) (k : ℕ) : α :=
  t (k + 1) - t k

/-- The largest of the intervals from index `i` to index `j` less the smallest, 0 for fewer than
two of them. -/
def spread (t : ℕ → α) (i j : ℕ) : α :=
  if h : i + 1 < j then
    (Finset.Ico i j).sup' (Finset.nonempty_Ico.mpr (by omega)) (interval t)
      - (Finset.Ico i j).inf' (Finset.nonempty_Ico.mpr (by omega)) (interval t)
  else
    0

/-- The largest spread of the windows of the first `n` times that are as long as their width. -/
def peakSpread [OrderBot α] (t : ℕ → α) (width : α) (n : ℕ) : α :=
  ((Finset.range n).filter fun j => t 0 + width ≤ t j).sup
    fun j => spread t (windowStart t width j) j

/-- The peak grows with the last window. -/
theorem peakSpread_succ [OrderBot α] (t : ℕ → α) (width : α) (n : ℕ) :
    peakSpread t width (n + 1)
      = if t 0 + width ≤ t n then max (peakSpread t width n) (spread t (windowStart t width n) n)
        else peakSpread t width n := by
  unfold peakSpread
  rw [Finset.range_add_one, Finset.filter_insert]
  split
  · rw [Finset.sup_insert, max_comm]
  · rfl

section Spread

variable [CanonicallyOrderedAdd α] [IsOrderedAddMonoid α] [OrderedSub α] {t : ℕ → α} {width : α}

/-- A stretch of a window has no larger spread. -/
theorem spread_le_spread {i k j : ℕ} (h : k ≤ i) : spread t i j ≤ spread t k j := by
  unfold spread
  split
  · next hi =>
    have hsubset : Finset.Ico i j ⊆ Finset.Ico k j := Finset.Ico_subset_Ico_left h
    rw [dif_pos (by omega)]
    exact tsub_le_tsub (Finset.sup'_mono _ hsubset _) (Finset.inf'_mono _ hsubset _)
  · exact zero_le

/-- **No stretch shorter than the width is under-reported.** -/
theorem spread_le_peakSpread [OrderBot α] {n i j : ℕ} (hmono : MonotoneOn t (Set.Iio n))
    (hj : j < n) (hshort : t j < t i + width) (hfirst : t 0 + width ≤ t j) :
    spread t i j ≤ peakSpread t width n := by
  have hinside : windowStart t width j ≤ i := by
    by_contra hlt
    exact hshort.not_ge (add_le_of_le_windowStart hmono hj hfirst (by omega))
  refine (spread_le_spread hinside).trans ?_
  exact Finset.le_sup (f := fun j => spread t (windowStart t width j) j)
    (Finset.mem_filter.mpr ⟨Finset.mem_range.mpr hj, hfirst⟩)

end Spread

end Ipmx.Lib.SlidingWindow
