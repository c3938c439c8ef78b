/-
Ipmx.Timing.LatencyMetrics — `LatencyMetrics` of `metrics.hpp`.

Latencies are kept as milliseconds in doubles, so every one of them is rounded
twice on its way to the maximum. For a limit of whole milliseconds this makes no
difference: the maximum is within the limit exactly if every latency is
(`maximumMs_le_iff`). The number of latencies is a natural number here, and its
conversion wraps.
-/
import Ipmx.Lib.Binary64
import Mathlib.Tactic.Linarith

namespace Ipmx.Timing

open Ipmx.Lib

structure LatencyMetrics where
  count : Nat := 0
  minimumMs : Float := 1.7976931348623157e308
  maximumMs : Float := 0.0
  meanMs : Float := 0.0
  squaredDelta : Float := 0.0
deriving DecidableEq, Repr

namespace LatencyMetrics

/-- A latency in milliseconds. -/
def milliseconds (latencyNs : UInt64) : Float := latencyNs.toFloat / 1000000.0

def observeNs (s : LatencyMetrics) (latencyNs : UInt64) : LatencyMetrics :=
  let ms := milliseconds latencyNs
  let count := s.count + 1
  let delta := ms - s.meanMs
  let meanMs := s.meanMs + delta / (UInt64.ofNat count).toFloat
  { count
    minimumMs := if ms < s.minimumMs then ms else s.minimumMs
    maximumMs := if s.maximumMs < ms then ms else s.maximumMs
    meanMs
    squaredDelta := s.squaredDelta + delta * (ms - meanMs) }

/-- The metrics of some latencies. -/
def observeAll (latencies : List UInt64) : LatencyMetrics := latencies.foldl observeNs {}

/-! ## The largest latency -/

/-- A latency is rounded when it is converted, and once more when it is divided. -/
theorem milliseconds_rounded (latencyNs : UInt64) :
    ∃ x y, Binary64.Faithful latencyNs.toNat x ∧ Binary64.Faithful (x / 1000000) y
      ∧ Binary64.IsValue 181 (milliseconds latencyNs) y := by
  have hmillion : Binary64.IsValue 64 1000000.0 1000000 := by
    have hconverted : (1000000.0 : Float) = (1000000 : UInt32).toFloat := by decide
    rw [hconverted]
    exact Binary64.isValue_toFloat32 1000000
  obtain ⟨x, hx, hfaithful⟩ := Binary64.isValue_toFloat latencyNs
  obtain ⟨y, hy, hfaithful'⟩ := Binary64.isValue_div hx hmillion (by norm_num) (by norm_num)
  exact ⟨x, y, hfaithful, hfaithful', hy⟩

/-- A double above a limit, by less than a nanosecond. -/
theorem short_above {limit : ℕ} (h : limit < 2 ^ 32) : Binary64.Short (limit + 1 / 2 ^ 20) := by
  refine ⟨limit * 1048576 + 1, by omega, -20, ?_⟩
  rw [Binary64.scaled]
  push_cast
  ring

/-- **Rounding crosses no limit**: a latency in milliseconds is within a limit of whole
milliseconds exactly if the latency itself is. -/
theorem milliseconds_le_iff (latencyNs : UInt64) (limitMs : UInt32) :
    milliseconds latencyNs ≤ limitMs.toFloat ↔ latencyNs.toNat ≤ limitMs.toNat * 1000000 := by
  obtain ⟨x, y, hx, hy, hvalue⟩ := milliseconds_rounded latencyNs
  rw [Binary64.le_iff hvalue (Binary64.isValue_toFloat32 limitMs)]
  have hlimit := limitMs.toNat_lt
  generalize latencyNs.toNat = n at *
  generalize limitMs.toNat = limit at *
  have hcap : ((limit * 1000000 : ℕ) : ℚ) = limit * 1000000 := by push_cast; rfl
  have hnext : limit * 1000000 + 1 < 2 ^ 53 := by omega
  have hshort := short_above hlimit
  generalize limit * 1000000 = cap at *
  constructor
  · -- the next latency is more than 2^-20 ms above the limit
    contrapose!
    intro hlt
    have hlow := hx.le _ (Binary64.short_natCast hnext) (Nat.cast_le.mpr hlt)
    have habove : (limit + 1 / 2 ^ 20 : ℚ) ≤ x / 1000000 := by
      rw [le_div_iff₀ (by norm_num)]
      push_cast at hlow
      linarith
    have hquotient := hy.le _ hshort habove
    linarith
  · intro hle
    have hhigh := hx.ge _ (Binary64.short_natCast (by omega)) (Nat.cast_le.mpr hle)
    refine hy.ge _ (Binary64.short_natCast (by omega)) ?_
    rw [div_le_iff₀ (by norm_num)]
    exact hcap ▸ hhigh

/-- One more latency. -/
theorem maximumMs_observeNs {s : LatencyMetrics} {x : ℚ}
    (h : Binary64.IsValue 181 s.maximumMs x) (latencyNs : UInt64) :
    (∃ x', Binary64.IsValue 181 (s.observeNs latencyNs).maximumMs x')
      ∧ ∀ limitMs : UInt32, (s.observeNs latencyNs).maximumMs ≤ limitMs.toFloat
        ↔ s.maximumMs ≤ limitMs.toFloat ∧ milliseconds latencyNs ≤ limitMs.toFloat := by
  obtain ⟨_, y, _, _, hy⟩ := milliseconds_rounded latencyNs
  have hmaximum : (s.observeNs latencyNs).maximumMs
      = if s.maximumMs < milliseconds latencyNs then milliseconds latencyNs else s.maximumMs := rfl
  rw [hmaximum]
  split
  · next hlarger =>
    have hlt := (Binary64.lt_iff h hy).mp hlarger
    refine ⟨⟨y, hy⟩, fun limitMs => ?_⟩
    have hlimit := Binary64.isValue_toFloat32 limitMs
    rw [Binary64.le_iff hy hlimit, Binary64.le_iff h hlimit]
    exact ⟨fun hle => ⟨hlt.le.trans hle, hle⟩, And.right⟩
  · next hsmaller =>
    have hle := not_lt.mp (mt (Binary64.lt_iff h hy).mpr hsmaller)
    refine ⟨⟨x, h⟩, fun limitMs => ?_⟩
    have hlimit := Binary64.isValue_toFloat32 limitMs
    rw [Binary64.le_iff hy hlimit, Binary64.le_iff h hlimit]
    exact ⟨fun hall => ⟨hall, hle.trans hall⟩, And.left⟩

theorem maximumMs_foldl {s : LatencyMetrics} {x : ℚ} (h : Binary64.IsValue 181 s.maximumMs x)
    (latencies : List UInt64) (limitMs : UInt32) :
    (latencies.foldl observeNs s).maximumMs ≤ limitMs.toFloat
      ↔ s.maximumMs ≤ limitMs.toFloat
        ∧ ∀ latencyNs ∈ latencies, latencyNs.toNat ≤ limitMs.toNat * 1000000 := by
  induction latencies generalizing s x with
  | nil => exact (and_iff_left fun _ hmem => nomatch hmem).symm
  | cons latencyNs latencies ih =>
    obtain ⟨⟨x', hx'⟩, hstep⟩ := maximumMs_observeNs h latencyNs
    rw [List.foldl_cons, ih hx', hstep limitMs, milliseconds_le_iff, List.forall_mem_cons,
      and_assoc]

/-- **The maximum is within the limit exactly if every latency is.** -/
theorem maximumMs_le_iff (latencies : List UInt64) (limitMs : UInt32) :
    (observeAll latencies).maximumMs ≤ limitMs.toFloat
      ↔ ∀ latencyNs ∈ latencies, latencyNs.toNat ≤ limitMs.toNat * 1000000 := by
  have hzero : Binary64.IsValue 181 ({} : LatencyMetrics).maximumMs 0 := by
    have hconverted : ({} : LatencyMetrics).maximumMs = (0 : UInt32).toFloat := by decide
    rw [hconverted]
    exact Binary64.Regular.mono (Binary64.isValue_toFloat32 0) (by norm_num)
  rw [observeAll, maximumMs_foldl hzero, Binary64.le_iff hzero (Binary64.isValue_toFloat32 limitMs)]
  exact and_iff_right (Nat.cast_nonneg _)

theorem count_observeAll (latencies : List UInt64) :
    (observeAll latencies).count = latencies.length := by
  have hfold : ∀ s : LatencyMetrics,
      (latencies.foldl observeNs s).count = s.count + latencies.length := by
    induction latencies with
    | nil => exact fun s => rfl
    | cons latencyNs latencies ih =>
      intro s
      rw [List.foldl_cons, ih, List.length_cons]
      show s.count + 1 + latencies.length = _
      omega
  rw [observeAll, hfold]
  exact Nat.zero_add _

end LatencyMetrics
end Ipmx.Timing
