/-
Ipmx.Timing.FrameIntervalTrackerTheorems — the sliding spread is that of a full
recomputation.

A time in front of the last one kept changes nothing, so a run is a run over the
times kept (`observeAll_kept`), which are in order. There the deque holds the
times from the start of the window on (`Slides`, kept by `Slides.observe`), and
the spread it reports is the largest of all windows so far
(`observeAll_recomputed`).
-/
import Ipmx.Lib.SlidingWindow
import Ipmx.Timing.FrameIntervalTracker
import Mathlib.Algebra.Order.Group.Nat
import Mathlib.Algebra.Order.Interval.Finset.SuccPred
import Mathlib.Algebra.Order.Sub.Basic
import Mathlib.Data.Nat.SuccPred
import Mathlib.Order.Lattice.Nat

namespace Ipmx.Timing.FrameIntervalTracker

open Ipmx.Lib
open SlidingWindow

/-! ## The times kept -/

/-- An observation is kept unless it is earlier than the last one kept. -/
def keep (kept : List UInt64) (time : UInt64) : List UInt64 :=
  if kept.getLast?.any fun last => time < last then kept else kept ++ [time]

/-- The observations kept. -/
def kept (observations : List UInt64) : List UInt64 :=
  observations.foldl keep []

/-- The time of an index, 0 behind the end. -/
def timeAt (times : List UInt64) (k : ℕ) : ℕ :=
  (times.getD k 0).toNat

theorem kept_append_singleton (observations : List UInt64) (time : UInt64) :
    kept (observations ++ [time]) = keep (kept observations) time := by
  rw [kept, List.foldl_append]
  rfl

/-- The times kept are in order. -/
theorem isChain_kept (observations : List UInt64) :
    (kept observations).IsChain (fun s t => s ≤ t) := by
  induction observations using List.reverseRecOn with
  | nil => exact List.isChain_nil
  | append_singleton observations time ih =>
    rw [kept_append_singleton, keep]
    split
    · exact ih
    · next hlater =>
      refine List.isChain_append.mpr ⟨ih, List.isChain_singleton _, ?_⟩
      intro last hlast next hnext
      obtain rfl : time = next := by simpa using hnext
      rw [Option.mem_def.mp hlast, Option.any_some, decide_eq_true_eq] at hlater
      exact UInt64.not_lt.mp hlater

theorem timeAt_of_lt {times : List UInt64} {k : ℕ} (h : k < times.length) :
    timeAt times k = times[k].toNat := by
  rw [timeAt, List.getD_eq_getElem?_getD, List.getElem?_eq_getElem h, Option.getD_some]

theorem monotoneOn_timeAt {times : List UInt64} (h : times.IsChain (fun s t => s ≤ t)) :
    MonotoneOn (timeAt times) (Set.Iio times.length) := by
  intro i hi j hj hij
  rw [Set.mem_Iio] at hi hj
  rw [timeAt_of_lt hi, timeAt_of_lt hj]
  obtain rfl | hlt := hij.eq_or_lt
  · exact le_refl _
  · exact UInt64.le_iff_toNat_le.mp (List.pairwise_iff_getElem.mp h.pairwise i j hi hj hlt)

/-! ## Going back changes nothing -/

theorem getLast?_trim (windowNs time : UInt64) (timestamps : List UInt64) :
    (trim windowNs time timestamps).getLast? = timestamps.getLast? := by
  fun_induction trim with
  | case1 first second third rest hpassed ih => exact ih.trans List.getLast?_cons_cons.symm
  | case2 => rfl
  | case3 => rfl

/-- A time that is not kept is not observed, and one that is kept is the last one from then
on. -/
theorem observe_of_not_lt {t : FrameIntervalTracker} {time : UInt64}
    (h : ¬ t.timestamps.getLast?.any (fun last => time < last) = true) :
    (t.observe time).timestamps.getLast? = some time := by
  rw [observe, if_neg h]
  dsimp only
  split <;> simp [getLast?_trim]

/-- **A run is a run over the times kept.** -/
theorem observeAll_kept (windowNs : UInt64) (observations : List UInt64) :
    observeAll windowNs (kept observations) = observeAll windowNs observations
      ∧ (observeAll windowNs observations).timestamps.getLast? = (kept observations).getLast? := by
  induction observations using List.reverseRecOn with
  | nil => exact ⟨rfl, rfl⟩
  | append_singleton observations time ih =>
    obtain ⟨hrun, hlast⟩ := ih
    have hnext : observeAll windowNs (observations ++ [time])
        = (observeAll windowNs observations).observe time := by
      rw [observeAll, List.foldl_append]
      rfl
    rw [hnext, kept_append_singleton, keep]
    by_cases hback : (kept observations).getLast?.any fun last => time < last
    · rw [if_pos hback, observe, if_pos (by rw [hlast]; exact hback)]
      exact ⟨hrun, hlast⟩
    · rw [if_neg hback]
      constructor
      · rw [← hrun, observeAll, List.foldl_append]
        rfl
      · rw [observe_of_not_lt (by rw [hlast]; exact hback), List.getLast?_concat]

/-! ## The deque -/

theorem toNat_min (a b : UInt64) : (min a b).toNat = min a.toNat b.toNat := by
  rw [Nat.min_def]
  exact apply_ite UInt64.toNat (a ≤ b) a b

theorem toNat_max (a b : UInt64) : (max a b).toNat = max a.toNat b.toNat := by
  rw [Nat.max_def]
  exact apply_ite UInt64.toNat (a ≤ b) b a

/-- The timestamps are those of `t` from index `k` on. -/
def TimesFrom (t : ℕ → ℕ) : ℕ → List UInt64 → Prop
  | _, [] => True
  | k, time :: rest => time.toNat = t k ∧ TimesFrom t (k + 1) rest

theorem TimesFrom.append {t : ℕ → ℕ} {k : ℕ} {timestamps : List UInt64}
    (h : TimesFrom t k timestamps) {time : UInt64}
    (htime : time.toNat = t (k + timestamps.length)) :
    TimesFrom t k (timestamps ++ [time]) := by
  induction timestamps generalizing k with
  | nil => exact ⟨htime, trivial⟩
  | cons first rest ih =>
    refine ⟨h.1, ih h.2 ?_⟩
    rw [htime, List.length_cons]
    congr 1
    omega

theorem TimesFrom.last_eq {t : ℕ → ℕ} {k : ℕ} {timestamps : List UInt64}
    (h : TimesFrom t k timestamps) {last : UInt64} (hlast : timestamps.getLast? = some last) :
    last.toNat = t (k + timestamps.length - 1) := by
  induction timestamps generalizing k with
  | nil => cases hlast
  | cons first rest ih =>
    cases rest with
    | nil =>
      obtain rfl : first = last := by simpa using hlast
      exact h.1
    | cons second rest =>
      rw [List.getLast?_cons_cons] at hlast
      rw [ih h.2 hlast]
      simp only [List.length_cons]
      congr 1
      omega

section Window

variable {t : ℕ → ℕ} {windowNs time : UInt64} {n j : ℕ} (hmono : MonotoneOn t (Set.Iio n))
  (hj : j < n) (htime : time.toNat = t j)

include hmono hj

/-- Times of words that are in order are subtracted without wrapping. -/
theorem toNat_sub_of_index {earlier later : UInt64} {i k : ℕ} (hik : i ≤ k) (hkj : k ≤ j)
    (hearlier : earlier.toNat = t i) (hlater : later.toNat = t k) :
    (later - earlier).toNat = t k - t i := by
  have hle : t i ≤ t k := hmono (Set.mem_Iio.mpr (by omega)) (Set.mem_Iio.mpr (by omega)) hik
  rw [UInt64.toNat_sub_of_le _ _ (UInt64.le_iff_toNat_le.mpr (by omega)), hearlier, hlater]

include htime

/-- **The loop at the front** leaves the times from the start of the window on. -/
theorem trim_timesFrom (hwindow : 0 < windowNs.toNat) {timestamps : List UInt64} {f : ℕ}
    (htimes : TimesFrom t f timestamps) (hlength : f + timestamps.length = j + 1)
    (hf : f ≤ windowStart t windowNs.toNat j) :
    TimesFrom t (windowStart t windowNs.toNat j) (trim windowNs time timestamps)
      ∧ windowStart t windowNs.toNat j + (trim windowNs time timestamps).length = j + 1 := by
  induction timestamps using trim.induct windowNs time generalizing f with
  | case1 first second third rest hpassed ih =>
    simp only [List.length_cons] at hlength
    have helapsed := toNat_sub_of_index hmono hj (i := f + 1) (by omega) (le_refl j)
      htimes.2.1 htime
    rw [ge_iff_le, UInt64.le_iff_toNat_le, helapsed] at hpassed
    have hstart : f + 1 ≤ windowStart t windowNs.toNat j := le_windowStart (by omega) (by omega)
    rw [trim, if_pos (by rw [ge_iff_le, UInt64.le_iff_toNat_le, helapsed]; exact hpassed)]
    exact ih htimes.2 (by simp only [List.length_cons]; omega) hstart
  | case2 first second third rest hstays =>
    simp only [List.length_cons] at hlength
    have helapsed := toNat_sub_of_index hmono hj (i := f + 1) (by omega) (le_refl j)
      htimes.2.1 htime
    have hshort : t j < t (f + 1) + windowNs.toNat := by
      rw [ge_iff_le, UInt64.le_iff_toNat_le, helapsed] at hstays
      omega
    have hstart : windowStart t windowNs.toNat j = f :=
      le_antisymm (windowStart_le hmono hj hshort) hf
    rw [trim, if_neg hstays, hstart]
    exact ⟨htimes, hlength⟩
  | case3 timestamps hshort =>
    have hkeep : timestamps.length ≤ 2 ∧ trim windowNs time timestamps = timestamps := by
      rcases timestamps with _ | ⟨first, _ | ⟨second, _ | ⟨third, rest⟩⟩⟩
      · exact ⟨by simp, rfl⟩
      · exact ⟨by simp, rfl⟩
      · exact ⟨by simp, rfl⟩
      · exact absurd rfl (hshort first second third rest)
    have hle : windowStart t windowNs.toNat j ≤ j := Nat.findGreatest_le j
    have hstart : windowStart t windowNs.toNat j = f := by
      rcases Nat.eq_zero_or_pos j with rfl | hpos
      · omega
      · have hlt := windowStart_lt (t := t) hwindow hpos
        omega
    rw [hkeep.2, hstart]
    exact ⟨htimes, hlength⟩

omit htime

/-- **The loop over the intervals** finds the smallest and the largest one. -/
theorem intervalRange_timesFrom {timestamps : List UInt64} {i : ℕ} (hij : i < j)
    (htimes : TimesFrom t i timestamps) (hlength : i + timestamps.length = j + 1)
    (minimum maximum : UInt64) :
    (intervalRange timestamps minimum maximum).1.toNat
        = min minimum.toNat
          ((Finset.Ico i j).inf' (Finset.nonempty_Ico.mpr hij) (interval t))
      ∧ (intervalRange timestamps minimum maximum).2.toNat
        = max maximum.toNat
          ((Finset.Ico i j).sup' (Finset.nonempty_Ico.mpr hij) (interval t)) := by
  induction timestamps generalizing i minimum maximum with
  | nil =>
    rw [List.length_nil] at hlength
    omega
  | cons first rest ih =>
    cases rest with
    | nil =>
      simp only [List.length_cons, List.length_nil] at hlength
      omega
    | cons second rest =>
      have hfirst : (second - first).toNat = interval t i :=
        toNat_sub_of_index hmono hj (Nat.le_succ i) (by omega) htimes.1 htimes.2.1
      rw [intervalRange]
      obtain rfl | hmore := (Nat.succ_le_of_lt hij).eq_or_lt
      · have hrest : rest = [] := by
          simp only [List.length_cons] at hlength
          exact List.eq_nil_of_length_eq_zero (by omega)
        simp only [hrest, intervalRange, Nat.Ico_succ_singleton, Finset.inf'_singleton,
          Finset.sup'_singleton, ← hfirst]
        exact ⟨toNat_min _ _, toNat_max _ _⟩
      · obtain ⟨hleast, hgreatest⟩ := ih hmore htimes.2
          (by simp only [List.length_cons] at hlength ⊢; omega)
          (min minimum (second - first)) (max maximum (second - first))
        have hnonempty : (Finset.Ico (i + 1) j).Nonempty := Finset.nonempty_Ico.mpr hmore
        have hinsert : Finset.Ico i j = insert i (Finset.Ico (i + 1) j) :=
          (Finset.insert_Ico_add_one_left_eq_Ico hij).symm
        rw [Finset.inf'_congr _ hinsert fun _ _ => rfl, Finset.sup'_congr _ hinsert fun _ _ => rfl,
          Finset.inf'_insert (H := hnonempty), Finset.sup'_insert (H := hnonempty), hleast,
          hgreatest, toNat_min, toNat_max, hfirst, min_assoc, max_assoc]
        exact ⟨rfl, rfl⟩

end Window

/-- What the two loops report is the spread of the window. -/
theorem toNat_spread {t : ℕ → ℕ} {time : UInt64} {n j k : ℕ} (hmono : MonotoneOn t (Set.Iio n))
    (hj : j < n) (htime : time.toNat = t j) {timestamps : List UInt64}
    (htimes : TimesFrom t k timestamps) (hlength : k + timestamps.length = j + 1)
    (hlong : k + 1 < j) :
    ((intervalRange timestamps 0xFFFFFFFFFFFFFFFF 0).2
      - (intervalRange timestamps 0xFFFFFFFFFFFFFFFF 0).1).toNat = spread t k j := by
  have hkj : k < j := Nat.lt_of_succ_lt hlong
  obtain ⟨hleast, hgreatest⟩ :=
    intervalRange_timesFrom hmono hj hkj htimes hlength 0xFFFFFFFFFFFFFFFF 0
  have htop : (0xFFFFFFFFFFFFFFFF : UInt64).toNat = 2 ^ 64 - 1 := rfl
  have hzero : (0 : UInt64).toNat = 0 := rfl
  have hmem : k ∈ Finset.Ico k j := Finset.mem_Ico.mpr ⟨le_refl k, hkj⟩
  have hword : interval t k < 2 ^ 64 := by
    have hle : t (k + 1) ≤ t j :=
      hmono (Set.mem_Iio.mpr (by omega)) (Set.mem_Iio.mpr hj) hlong.le
    have hlt := time.toNat_lt
    rw [interval]
    omega
  have hinf := Finset.inf'_le (interval t) hmem
  have hsup := Finset.le_sup' (interval t) hmem
  rw [htop, min_eq_right (by omega)] at hleast
  rw [hzero, max_eq_right (Nat.zero_le _)] at hgreatest
  rw [UInt64.toNat_sub_of_le _ _ (UInt64.le_iff_toNat_le.mpr (by omega)), hleast, hgreatest,
    spread, dif_pos hlong]

/-! ## Runs -/

/-- The tracker that has observed the first `m` times. -/
structure Slides (t : ℕ → ℕ) (windowNs : UInt64) (m : ℕ) (s : FrameIntervalTracker) : Prop where
  window : s.windowNs = windowNs
  times : TimesFrom t (windowStart t windowNs.toNat (m - 1)) s.timestamps
  length : windowStart t windowNs.toNat (m - 1) + s.timestamps.length = m
  spread : s.maximumIntervalSpreadNs.toNat = peakSpread t windowNs.toNat m

theorem Slides.start (t : ℕ → ℕ) (windowNs : UInt64) : Slides t windowNs 0 { windowNs } :=
  ⟨rfl, trivial, rfl, rfl⟩

section Observe

variable {t : ℕ → ℕ} {windowNs time : UInt64} {n m : ℕ} {s : FrameIntervalTracker}
  (h : Slides t windowNs m s) (hmono : MonotoneOn t (Set.Iio n)) (hm : m < n)
  (htime : time.toNat = t m)

include h hmono hm htime

/-- The last time observed is not behind the next one. -/
theorem Slides.not_back :
    ¬ s.timestamps.getLast?.any (fun last => time < last) = true := by
  have hbefore : t (m - 1) ≤ t m :=
    hmono (Set.mem_Iio.mpr (by omega)) (Set.mem_Iio.mpr hm) (Nat.sub_le m 1)
  rw [Option.any_eq_true]
  rintro ⟨last, hlast, hback⟩
  have hat := h.times.last_eq hlast
  rw [decide_eq_true_eq, UInt64.lt_iff_toNat_lt, hat, h.length] at hback
  omega

/-- What is left of the deque and the next time is the next window. -/
theorem Slides.trimmed (hwindow : 0 < windowNs.toNat) :
    TimesFrom t (windowStart t windowNs.toNat m) (trim windowNs time (s.timestamps ++ [time]))
      ∧ windowStart t windowNs.toNat m + (trim windowNs time (s.timestamps ++ [time])).length
        = m + 1 := by
  have hstart : windowStart t windowNs.toNat (m - 1) ≤ windowStart t windowNs.toNat m := by
    cases m with
    | zero => exact le_refl _
    | succ m =>
      exact windowStart_mono
        (hmono (Set.mem_Iio.mpr (by omega)) (Set.mem_Iio.mpr hm) (Nat.le_succ m))
  have hlast : time.toNat = t (windowStart t windowNs.toNat (m - 1) + s.timestamps.length) := by
    rw [h.length]
    exact htime
  have hlength : windowStart t windowNs.toNat (m - 1) + (s.timestamps ++ [time]).length
      = m + 1 := by
    rw [List.length_append, List.length_singleton, ← Nat.add_assoc, h.length]
  exact trim_timesFrom hmono hm htime hwindow (h.times.append hlast) hlength hstart

/-- **One more time.** -/
theorem Slides.observe (hwindow : 0 < windowNs.toNat) :
    Slides t windowNs (m + 1) (s.observe time) := by
  obtain ⟨htimes, hlength⟩ := h.trimmed hmono hm htime hwindow
  rw [FrameIntervalTracker.observe, if_neg (h.not_back hmono hm htime), h.window]
  dsimp only
  generalize trim windowNs time (s.timestamps ++ [time]) = timestamps at *
  have hle : windowStart t windowNs.toNat m ≤ m := Nat.findGreatest_le m
  obtain ⟨first, rest, rfl⟩ : ∃ first rest, timestamps = first :: rest :=
    List.exists_cons_of_length_pos (by omega)
  have helapsed : (time - first).toNat = _ :=
    toNat_sub_of_index hmono hm hle (le_refl m) htimes.1 htime
  have hfirst : t (windowStart t windowNs.toNat m) ≤ t m :=
    hmono (Set.mem_Iio.mpr (by omega)) (Set.mem_Iio.mpr hm) hle
  have hfull : t 0 + windowNs.toNat ≤ t m →
      t (windowStart t windowNs.toNat m) + windowNs.toNat ≤ t m :=
    fun hwide => add_le_of_le_windowStart hmono hm hwide (le_refl _)
  have hpeak := peakSpread_succ t windowNs.toNat m
  split
  · next hearly =>
    rw [List.headD_cons, UInt64.lt_iff_toNat_lt, helapsed] at hearly
    refine ⟨rfl, htimes, hlength, h.spread.trans ?_⟩
    rw [hpeak]
    split
    · next hwide =>
      have hfew : ¬ windowStart t windowNs.toNat m + 1 < m := by
        have := hfull hwide
        omega
      rw [SlidingWindow.spread, dif_neg hfew, max_eq_left (Nat.zero_le _)]
    · rfl
  · next hlate =>
    rw [List.headD_cons, UInt64.lt_iff_toNat_lt, helapsed] at hlate
    have hzero : t 0 ≤ t (windowStart t windowNs.toNat m) :=
      hmono (Set.mem_Iio.mpr (by omega)) (Set.mem_Iio.mpr (by omega)) (Nat.zero_le _)
    refine ⟨rfl, htimes, hlength, ?_⟩
    rw [hpeak, if_pos (by omega), ← h.spread,
      ← toNat_spread hmono hm htime htimes hlength (by omega)]
    exact toNat_max _ _

end Observe

/-- **A run over times in order.** -/
theorem slides_observeAll {windowNs : UInt64} (hwindow : 0 < windowNs.toNat)
    {times : List UInt64} (horder : times.IsChain (fun s t => s ≤ t)) {m : ℕ}
    (hm : m ≤ times.length) :
    Slides (timeAt times) windowNs m (observeAll windowNs (times.take m)) := by
  induction m with
  | zero => exact .start _ _
  | succ m ih =>
    have hnext : times.take (m + 1) = times.take m ++ [times[m]] := by
      rw [List.take_append_getElem]
    rw [hnext, observeAll, List.foldl_append]
    exact (ih (by omega)).observe (monotoneOn_timeAt horder) hm (timeAt_of_lt hm).symm hwindow

/-- **The metric is that of a full recomputation.** Whatever is observed, the spread reported
is the largest of the windows of the times kept, and no stretch shorter than the window is
under-reported. -/
theorem observeAll_recomputed {windowNs : UInt64} (hwindow : 0 < windowNs)
    (observations : List UInt64) :
    (observeAll windowNs observations).maximumIntervalSpreadNs.toNat
        = peakSpread (timeAt (kept observations)) windowNs.toNat (kept observations).length
      ∧ ∀ i j, j < (kept observations).length →
        timeAt (kept observations) j < timeAt (kept observations) i + windowNs.toNat →
        timeAt (kept observations) 0 + windowNs.toNat ≤ timeAt (kept observations) j →
          spread (timeAt (kept observations)) i j
            ≤ (observeAll windowNs observations).maximumIntervalSpreadNs.toNat := by
  have horder := isChain_kept observations
  have hslides := slides_observeAll (UInt64.lt_iff_toNat_lt.mp hwindow) horder (le_refl _)
  rw [List.take_length, (observeAll_kept windowNs observations).1] at hslides
  refine ⟨hslides.spread, ?_⟩
  intro i j hj hshort hfull
  exact (spread_le_peakSpread (monotoneOn_timeAt horder) hj hshort hfull).trans
    hslides.spread.ge

/-- The third time goes back, and the window of the last one begins with the second. -/
def observedNs : List UInt64 := [1000, 1050, 1040, 1120, 1170]

theorem observeAll_recomputed_back :
    (observeAll 100 observedNs).maximumIntervalSpreadNs.toNat = 20
      ∧ spread (timeAt (kept observedNs)) 2 3 ≤ 20 := by
  have hwindow : (0 : UInt64) < 100 := by decide
  obtain ⟨hspread, hshort⟩ := observeAll_recomputed hwindow observedNs
  have htwenty : (observeAll 100 observedNs).maximumIntervalSpreadNs.toNat = 20 :=
    hspread.trans (by decide)
  rw [htwenty] at hshort
  exact ⟨htwenty, hshort 2 3 (by decide) (by decide) (by decide)⟩

end Ipmx.Timing.FrameIntervalTracker
