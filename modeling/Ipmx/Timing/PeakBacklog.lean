/-
Ipmx.Timing.PeakBacklog — the Network Compatibility tracker finds the true peak
backlog.

The counter of the tracker is the recursion of `Ipmx.Lib.Backlog` with one unit
for each packet and the drain ticks since the first one (`Tracks`, kept by
`Tracks.observe`). So it is the largest excess of the windows that end with the
packet, and the maximum and the number of violations are those of this
backlog over all packets (`observeFirst_peakBacklog`).
-/
import Ipmx.Lib.Backlog
import Ipmx.Timing.TrafficShaperTheorems
import Mathlib.Algebra.Order.Floor.Div
import Mathlib.Data.Nat.Count

namespace Ipmx.Timing.NetworkCompatibilityTracker

open Ipmx.Lib
open Backlog

/-! ## The constructor in words -/

/-- The constructor in the words of the source: the interval is computed with 64 bits, from a
64-bit rate and a 32-bit ratio. -/
def construct (maximumPacketsPerSecond : UInt64) (cmax betaNumerator betaDenominator : UInt32) :
    Option NetworkCompatibilityTracker :=
  if maximumPacketsPerSecond = 0 ∨ cmax = 0 ∨ betaNumerator = 0 ∨ betaDenominator = 0 then
    none
  else
    let numerator := 1000000000 * betaDenominator.toUInt64
    if maximumPacketsPerSecond > numerator / betaNumerator.toUInt64 then
      some { cmax := cmax.toNat, packetDrainIntervalNs := 1 }
    else
      let denominator := maximumPacketsPerSecond * betaNumerator.toUInt64
      some
        { cmax := cmax.toNat
          packetDrainIntervalNs :=
            (max 1 ((numerator + denominator - 1) / denominator)).toNat }

section Construct

variable {maximumPacketsPerSecond : UInt64} {betaNumerator betaDenominator : UInt32}

theorem toNat_numerator (betaDenominator : UInt32) :
    ((1000000000 : UInt64) * betaDenominator.toUInt64).toNat
      = 1000000000 * betaDenominator.toNat := by
  have hbits := betaDenominator.toNat_lt
  rw [UInt64.toNat_mul, UInt32.toNat_toUInt64]
  exact Nat.mod_eq_of_lt (show 1000000000 * betaDenominator.toNat < 2 ^ 64 by omega)

/-- Rounding up a quotient of words that is not below 1 and whose sum fits. -/
theorem toNat_ceil {numerator denominator : UInt64} (hpos : 0 < denominator.toNat)
    (hle : denominator.toNat ≤ numerator.toNat) (hsmall : numerator.toNat < 2 ^ 63) :
    (max 1 ((numerator + denominator - 1) / denominator)).toNat
      = numerator.toNat ⌈/⌉ denominator.toNat := by
  have hone : (1 : UInt64).toNat = 1 := rfl
  have hsum : (numerator + denominator).toNat = numerator.toNat + denominator.toNat := by
    rw [UInt64.toNat_add, Nat.mod_eq_of_lt (by omega)]
  have hword : (1 : UInt64) ≤ numerator + denominator := by
    rw [UInt64.le_iff_toNat_le, hsum, hone]
    omega
  have hquotient : ((numerator + denominator - 1) / denominator).toNat
      = numerator.toNat ⌈/⌉ denominator.toNat := by
    rw [UInt64.toNat_div, UInt64.toNat_sub_of_le _ _ hword, hsum, hone,
      Nat.ceilDiv_eq_add_pred_div]
  have hceil : (1 : UInt64) ≤ (numerator + denominator - 1) / denominator := by
    rw [UInt64.le_iff_toNat_le, hquotient, hone, Nat.ceilDiv_eq_add_pred_div,
      Nat.one_le_div_iff hpos]
    omega
  exact (congrArg UInt64.toNat (if_pos hceil)).trans hquotient

/-- The division decides whether the rate needs more than one packet for each nanosecond. -/
theorem exceeds_quotient_iff (hnum : 0 < betaNumerator.toNat) :
    maximumPacketsPerSecond > 1000000000 * betaDenominator.toUInt64 / betaNumerator.toUInt64
      ↔ 1000000000 * betaDenominator.toNat
        < maximumPacketsPerSecond.toNat * betaNumerator.toNat := by
  rw [gt_iff_lt, UInt64.lt_iff_toNat_lt, UInt64.toNat_div, toNat_numerator, UInt32.toNat_toUInt64,
    Nat.div_lt_iff_lt_mul hnum]

/-- Below that the product and the sum fit. -/
theorem toNat_interval
    (hpos : 0 < maximumPacketsPerSecond.toNat * betaNumerator.toNat)
    (hle : maximumPacketsPerSecond.toNat * betaNumerator.toNat
      ≤ 1000000000 * betaDenominator.toNat) :
    (max 1 ((1000000000 * betaDenominator.toUInt64
          + maximumPacketsPerSecond * betaNumerator.toUInt64 - 1)
        / (maximumPacketsPerSecond * betaNumerator.toUInt64))).toNat
      = 1000000000 * betaDenominator.toNat
        ⌈/⌉ (maximumPacketsPerSecond.toNat * betaNumerator.toNat) := by
  have hbits := betaDenominator.toNat_lt
  have hnumerator := toNat_numerator betaDenominator
  have hproduct : (maximumPacketsPerSecond * betaNumerator.toUInt64).toNat
      = maximumPacketsPerSecond.toNat * betaNumerator.toNat := by
    rw [UInt64.toNat_mul, UInt32.toNat_toUInt64]
    exact Nat.mod_eq_of_lt (by omega)
  rw [toNat_ceil (by rw [hproduct]; exact hpos) (by rw [hproduct, hnumerator]; exact hle)
    (by rw [hnumerator]; omega), hproduct, hnumerator]

/-- **No accepted rate overflows**: in 64 bits the constructor computes what it does without
bounds. -/
theorem construct_eq_new? (maximumPacketsPerSecond : UInt64)
    (cmax betaNumerator betaDenominator : UInt32) :
    construct maximumPacketsPerSecond cmax betaNumerator betaDenominator
      = new? maximumPacketsPerSecond.toNat cmax.toNat betaNumerator.toNat
        betaDenominator.toNat := by
  have hzero : (maximumPacketsPerSecond = 0 ∨ cmax = 0 ∨ betaNumerator = 0 ∨ betaDenominator = 0)
      ↔ (maximumPacketsPerSecond.toNat = 0 ∨ cmax.toNat = 0 ∨ betaNumerator.toNat = 0
        ∨ betaDenominator.toNat = 0) := by
    simp only [← UInt64.toNat_inj, ← UInt32.toNat_inj, UInt64.toNat_zero, UInt32.toNat_zero]
  unfold construct new?
  by_cases hrefused : maximumPacketsPerSecond = 0 ∨ cmax = 0 ∨ betaNumerator = 0
      ∨ betaDenominator = 0
  · rw [if_pos hrefused, if_pos (hzero.mp hrefused)]
  · rw [if_neg hrefused, if_neg (mt hzero.mpr hrefused)]
    simp only [hzero, not_or] at hrefused
    obtain ⟨hrate, _, hnum, _⟩ := hrefused
    have hnum := Nat.pos_of_ne_zero hnum
    have hpos := Nat.mul_pos (Nat.pos_of_ne_zero hrate) hnum
    have hover := (Nat.div_lt_iff_lt_mul hnum).trans
      (@exceeds_quotient_iff maximumPacketsPerSecond _ betaDenominator hnum).symm
    dsimp only
    by_cases hfast : maximumPacketsPerSecond
        > 1000000000 * betaDenominator.toUInt64 / betaNumerator.toUInt64
    · rw [if_pos hfast, if_pos (hover.mpr hfast)]
    · have hle := Nat.not_lt.mp (mt (exceeds_quotient_iff hnum).mpr hfast)
      have hone : 1 ≤ 1000000000 * betaDenominator.toNat
          ⌈/⌉ (maximumPacketsPerSecond.toNat * betaNumerator.toNat) := by
        rw [Nat.ceilDiv_eq_add_pred_div, Nat.one_le_div_iff hpos]
        omega
      rw [if_neg hfast, if_neg (mt hover.mp hfast), toNat_interval hpos hle,
        ← Nat.ceilDiv_eq_add_pred_div, max_eq_right hone]

/-- The tracker starts empty, and its drain interval is the exact ceiling. -/
theorem new?_eq_some {rate cmax betaNumerator betaDenominator : Nat}
    {t : NetworkCompatibilityTracker}
    (h : new? rate cmax betaNumerator betaDenominator = some t) :
    t = { cmax
          packetDrainIntervalNs := 1000000000 * betaDenominator ⌈/⌉ (rate * betaNumerator) }
      ∧ 1 ≤ t.packetDrainIntervalNs := by
  unfold new? at h
  split at h
  · cases h
  · next hnonzero =>
    simp only [not_or] at hnonzero
    obtain ⟨hrate, _, hnum, hden⟩ := hnonzero
    have hnum := Nat.pos_of_ne_zero hnum
    have hpos : 0 < rate * betaNumerator := Nat.mul_pos (Nat.pos_of_ne_zero hrate) hnum
    dsimp only at h
    split at h
    · next hover =>
      -- more than one packet for each nanosecond
      have hless := (Nat.div_lt_iff_lt_mul hnum).mp hover
      have hone : 1000000000 * betaDenominator ⌈/⌉ (rate * betaNumerator) = 1 := by
        rw [Nat.ceilDiv_eq_add_pred_div]
        exact Nat.div_eq_of_lt_le (by omega) (by omega)
      obtain rfl := Option.some.inj h
      exact ⟨by rw [hone], Nat.le_refl 1⟩
    · next hslow =>
      have hle := Nat.not_lt.mp (mt (Nat.div_lt_iff_lt_mul hnum).mpr hslow)
      have hone : 1 ≤ 1000000000 * betaDenominator ⌈/⌉ (rate * betaNumerator) := by
        rw [Nat.ceilDiv_eq_add_pred_div, Nat.one_le_div_iff hpos]
        omega
      rw [← Nat.ceilDiv_eq_add_pred_div, max_eq_right hone] at h
      obtain rfl := Option.some.inj h
      exact ⟨rfl, hone⟩

end Construct

/-! ## The backlog -/

/-- The whole drain intervals between the first packet and packet `k`. -/
def drainTicks (interval : ℕ) (sentNs : ℕ → UInt64) (k : ℕ) : ℕ :=
  ((sentNs k).toNat - (sentNs 0).toNat) / interval

/-- The backlog behind packet `j`: the most by which a window of packets that ends with it
exceeds the ticks it lasts. -/
def backlog (ticks : ℕ → ℕ) (j : ℕ) : ℤ :=
  (Finset.range (j + 1)).sup' Finset.nonempty_range_add_one
    fun i => ((j : ℤ) - i + 1) - ((ticks j : ℤ) - ticks i)

theorem backlog_eq_level (ticks : ℕ → ℕ) (j : ℕ) :
    backlog ticks j = level (fun _ => 1) (fun k => (ticks k : ℤ)) j := by
  rw [level_eq_sup', backlog]
  refine Finset.sup'_congr _ rfl ?_
  intro i hi
  have hle : i ≤ j := Finset.mem_range_succ_iff.mp hi
  rw [excess, Finset.sum_const, Nat.card_Ico, nsmul_one]
  push_cast [Nat.cast_sub (Nat.le_succ_of_le hle)]
  omega

theorem backlog_zero (ticks : ℕ → ℕ) : backlog ticks 0 = 1 :=
  backlog_eq_level ticks 0

theorem backlog_succ (ticks : ℕ → ℕ) (j : ℕ) :
    backlog ticks (j + 1)
      = max 0 (backlog ticks j - ((ticks (j + 1) : ℤ) - ticks j)) + 1 := by
  rw [backlog_eq_level, backlog_eq_level, level]

/-! ## The tracker -/

/-- The tracker that has observed the packets up to packet `n`. -/
structure Tracks (drainNs cmax : ℕ) (sentNs : ℕ → UInt64) (n : ℕ)
    (t : NetworkCompatibilityTracker) : Prop where
  interval : t.packetDrainIntervalNs = drainNs
  limit : t.cmax = cmax
  epoch : t.epochNs = (sentNs 0).toNat
  ticks : t.lastDrainCount = drainTicks drainNs sentNs n
  cinst : (t.cinst : ℤ) = backlog (drainTicks drainNs sentNs) n
  cinst_le : t.cinst ≤ n + 1
  maximum : (t.maximumCinst : ℤ)
    = (Finset.range (n + 1)).sup' Finset.nonempty_range_add_one
        (backlog (drainTicks drainNs sentNs))
  violations : t.violations
    = ((Finset.range (n + 1)).filter
        fun j => (cmax : ℤ) < backlog (drainTicks drainNs sentNs) j).card

/-- Below the largest value the count is exact. -/
theorem count_of_lt {t : NetworkCompatibilityTracker} (hcinst : t.cinst + 1 < 2 ^ 32)
    (hviolations : t.violations + 1 < Word64.size) :
    t.count = { t with
      cinst := t.cinst + 1
      maximumCinst := max t.maximumCinst (t.cinst + 1)
      violations := t.violations + if t.cmax < t.cinst + 1 then 1 else 0 } := by
  have hroom : t.cinst ≠ 2 ^ 32 - 1 := by omega
  rw [count, if_pos hroom, Word64.wrap_of_lt hviolations]
  congr 1
  split <;> rfl

section Run

variable {drainNs cmax : ℕ} {sentNs : ℕ → UInt64}

/-- **The first packet** sets the epoch. -/
theorem Tracks.first :
    Tracks drainNs cmax sentNs 0
      (observe { cmax, packetDrainIntervalNs := drainNs } (sentNs 0).toNat) := by
  have hzero : drainTicks drainNs sentNs 0 = 0 := by
    rw [drainTicks, Nat.sub_self, Nat.zero_div]
  have hdrain : drain { cmax, packetDrainIntervalNs := drainNs } (sentNs 0).toNat
      = { cmax, packetDrainIntervalNs := drainNs, epochNs := (sentNs 0).toNat } := rfl
  have hempty : 0 + 1 < Word64.size := by decide
  rw [observe, hdrain, count_of_lt (Nat.one_lt_two_pow (by decide)) hempty]
  constructor
  · rfl
  · rfl
  · rfl
  · exact hzero.symm
  · exact (backlog_zero _).symm
  · exact Nat.le_refl 1
  · simp [backlog_zero]
  · rw [Finset.range_one, Finset.filter_singleton, backlog_zero]
    by_cases hlimit : cmax < 1
    · rw [if_pos hlimit, if_pos (by omega), Finset.card_singleton]
    · rw [if_neg hlimit, if_neg (by omega), Finset.card_empty]

/-- **Every later packet.** -/
theorem Tracks.observe {n : ℕ} {t : NetworkCompatibilityTracker}
    (h : Tracks drainNs cmax sentNs n t) (hfirst : 0 < sentNs 0)
    (hstart : sentNs 0 ≤ sentNs n) (hnext : sentNs n ≤ sentNs (n + 1)) (hn : n + 2 < 2 ^ 32) :
    Tracks drainNs cmax sentNs (n + 1) (t.observe (sentNs (n + 1)).toNat) := by
  rw [UInt64.lt_iff_toNat_lt] at hfirst
  rw [UInt64.le_iff_toNat_le] at hstart hnext
  have hzero : (0 : UInt64).toNat = 0 := rfl
  have hmore : drainTicks drainNs sentNs n ≤ drainTicks drainNs sentNs (n + 1) :=
    Nat.div_le_div_right (Nat.sub_le_sub_right hnext _)
  have hticks : ((sentNs (n + 1)).toNat - t.epochNs) / t.packetDrainIntervalNs
      = drainTicks drainNs sentNs (n + 1) := by
    rw [h.epoch, h.interval, drainTicks]
  have hdrain : t.drain (sentNs (n + 1)).toNat = _ :=
    t.drain_of_ticks (by rw [h.epoch]; omega) (by rw [h.epoch]; omega)
      (sentNs (n + 1)).toNat_lt (by rw [h.ticks, hticks]; exact hmore)
  rw [hticks, h.ticks] at hdrain
  have hcount : t.violations ≤ n + 1 := by
    rw [h.violations]
    exact (Finset.card_filter_le _ _).trans (Finset.card_range _).le
  have hsmall := h.cinst_le
  have hbacklog : ((t.cinst - (drainTicks drainNs sentNs (n + 1)
        - drainTicks drainNs sentNs n) + 1 : ℕ) : ℤ)
      = backlog (drainTicks drainNs sentNs) (n + 1) := by
    rw [backlog_succ, ← h.cinst]
    omega
  rw [NetworkCompatibilityTracker.observe, hdrain,
    count_of_lt (by dsimp only; omega) (by simp only [Word64.size]; omega)]
  constructor
  · exact h.interval
  · exact h.limit
  · exact h.epoch
  · rfl
  · exact hbacklog
  · dsimp only
    omega
  · rw [Finset.sup'_congr _ (Finset.range_add_one (n := n + 1)) fun _ _ => rfl,
      Finset.sup'_insert (H := Finset.nonempty_range_add_one), ← h.maximum, ← hbacklog, max_comm]
    exact Nat.cast_max _ _
  · dsimp only
    rw [← Nat.count_eq_card_filter_range, Nat.count_succ, Nat.count_eq_card_filter_range,
      ← h.violations, ← hbacklog, h.limit]
    simp only [Nat.cast_lt]

/-- **A run.** -/
theorem tracks_observeFirst (drainNs cmax : ℕ) {sentNs : ℕ → UInt64} (hfirst : 0 < sentNs 0)
    {n : ℕ} (hn : n + 1 < 2 ^ 32) (horder : ∀ k < n, sentNs k ≤ sentNs (k + 1)) :
    sentNs 0 ≤ sentNs n ∧ Tracks drainNs cmax sentNs n
      (observeFirst { cmax, packetDrainIntervalNs := drainNs } (fun k => (sentNs k).toNat)
        (n + 1)) := by
  induction n with
  | zero => exact ⟨UInt64.le_refl _, .first⟩
  | succ n ih =>
    obtain ⟨hstart, htracks⟩ := ih (by omega) fun k hk => horder k (by omega)
    have hnext := horder n (Nat.lt_succ_self n)
    exact ⟨UInt64.le_trans hstart hnext, htracks.observe hfirst hstart hnext hn⟩

end Run

/-- **The tracker computes the true peak backlog.** The drain interval is the exact ceiling for
every accepted rate; behind every packet the counter is the largest excess of the windows that
end with it; and the maximum and the violations are those over all packets. -/
theorem observeFirst_peakBacklog {maximumPacketsPerSecond : UInt64}
    {cmax betaNumerator betaDenominator : UInt32} {t : NetworkCompatibilityTracker}
    (hnew : construct maximumPacketsPerSecond cmax betaNumerator betaDenominator = some t)
    {sentNs : ℕ → UInt64} {n : ℕ} (hfirst : 0 < sentNs 0)
    (horder : ∀ k < n, sentNs k ≤ sentNs (k + 1)) (hn : n + 1 < 2 ^ 32) :
    let drainNs := 1000000000 * betaDenominator.toNat
      ⌈/⌉ (maximumPacketsPerSecond.toNat * betaNumerator.toNat)
    let ticks := drainTicks drainNs sentNs
    let observed := t.observeFirst fun k => (sentNs k).toNat
    t.packetDrainIntervalNs = drainNs ∧ 1 ≤ drainNs
      ∧ (∀ j ≤ n, ((observed (j + 1)).cinst : ℤ) = backlog ticks j)
      ∧ ((observed (n + 1)).maximumCinst : ℤ)
        = (Finset.range (n + 1)).sup' Finset.nonempty_range_add_one (backlog ticks)
      ∧ (observed (n + 1)).violations
        = ((Finset.range (n + 1)).filter fun j => (cmax.toNat : ℤ) < backlog ticks j).card := by
  rw [construct_eq_new?] at hnew
  obtain ⟨rfl, hpos⟩ := new?_eq_some hnew
  intro drainNs ticks observed
  have hlast := (tracks_observeFirst drainNs cmax.toNat hfirst hn horder).2
  refine ⟨rfl, hpos, ?_, hlast.maximum, hlast.violations⟩
  intro j hj
  exact (tracks_observeFirst drainNs cmax.toNat hfirst (by omega)
    fun k hk => horder k (by omega)).2.cinst

/-- Four packets at once, and one a drain interval and a half later. -/
def burstNs (k : ℕ) : UInt64 :=
  if k < 4 then 1000 else 2365

theorem observeFirst_peakBacklog_burst :
    ∃ t, construct 1000000 3 11 10 = some t ∧ t.packetDrainIntervalNs = 910
      ∧ ((t.observeFirst (fun k => (burstNs k).toNat) 5).maximumCinst : ℤ) = 4
      ∧ (t.observeFirst (fun k => (burstNs k).toNat) 5).violations = 2 := by
  have hnew : construct 1000000 3 11 10 = some { cmax := 3, packetDrainIntervalNs := 910 } := by
    decide
  have horder : ∀ k < 4, burstNs k ≤ burstNs (k + 1) := by decide
  obtain ⟨_, _, _, hmaximum, hviolations⟩ :=
    observeFirst_peakBacklog hnew (by decide) horder (by decide)
  refine ⟨_, hnew, rfl, hmaximum.trans ?_, hviolations.trans ?_⟩
  · decide
  · decide

end Ipmx.Timing.NetworkCompatibilityTracker
