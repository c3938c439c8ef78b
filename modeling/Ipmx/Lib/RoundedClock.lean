/-
Ipmx.Lib.RoundedClock — two roundings of one clock stay together.

A period of `num` events in `A * unit` time units begins at the floor of its
exact time. A clock of `rate` ticks per `unit` can be read off the event count,
rounded to the nearest tick, or off the wall time of the period, rounded down.
`ticks_sub_clockAt` bounds the difference of the two readings on both sides of
a constant that depends on the offset of the wall clock alone, and
`ticks_sub_clockAt_le` follows: between any two events, however far apart, the
difference moves by at most two ticks.
-/
import Mathlib.Tactic.Linarith

namespace Ipmx.Lib.RoundedClock

/-- The time of an event, rounded down. -/
def eventTime (unit num A : Int) : Int := A * unit / num

/-- The clock at an event, rounded to the nearest tick. -/
def ticks (rate num A : Int) : Int := (A * rate + num / 2) / num

/-- The clock at a time, rounded down. -/
def clockAt (rate unit time : Int) : Int := time * rate / unit

/-- What rounding down loses, without the quotient. -/
theorem floor_bounds (a : Int) {b : Int} (hb : 0 < b) :
    a / b * b ≤ a ∧ a < (a / b + 1) * b :=
  ⟨Int.ediv_mul_le a hb.ne', Int.lt_ediv_add_one_mul_self a hb⟩

/-- **The two readings differ by a constant and less than two ticks.** -/
theorem ticks_sub_clockAt {rate unit num : Int} (hrate : 0 ≤ rate) (hunit : 0 < unit)
    (hnum : 0 < num) (A offset : Int) :
    -(2 * rate * offset) - unit
        < 2 * unit * (ticks rate num A - clockAt rate unit (offset + eventTime unit num A))
      ∧ 2 * unit * (ticks rate num A - clockAt rate unit (offset + eventTime unit num A))
        < -(2 * rate * offset) + 3 * unit + 2 * rate := by
  obtain ⟨htime, htime'⟩ := floor_bounds (A * unit) hnum
  obtain ⟨hticks, hticks'⟩ := floor_bounds (A * rate + num / 2) hnum
  obtain ⟨hclock, hclock'⟩ := floor_bounds ((offset + eventTime unit num A) * rate) hunit
  have hhalf : 2 * (num / 2) ≤ num ∧ num < 2 * (num / 2) + 2 := by omega
  change eventTime unit num A * num ≤ _ at htime
  change _ < (eventTime unit num A + 1) * num at htime'
  change ticks rate num A * num ≤ _ at hticks
  change _ < (ticks rate num A + 1) * num at hticks'
  change clockAt rate unit _ * unit ≤ _ at hclock
  change _ < (clockAt rate unit _ + 1) * unit at hclock'
  generalize eventTime unit num A = X at *
  generalize ticks rate num A = K at *
  generalize clockAt rate unit (offset + X) = C at *
  -- each bound is multiplied by the denominators of the others; their sum is `num` times the goal
  constructor
  · refine lt_of_mul_lt_mul_left (?_ : num * _ < num * _) hnum.le
    have hK : 2 * unit * (A * rate) + unit * num ≤ 2 * unit * (K * num) + 2 * unit * num - unit := by
      have hround : num + 2 * (A * rate) + 1 ≤ 2 * ((K + 1) * num) := by omega
      linarith only [mul_le_mul_of_nonneg_left hround hunit.le]
    have hC : 2 * num * (C * unit) ≤ 2 * num * ((offset + X) * rate) :=
      mul_le_mul_of_nonneg_left hclock (by omega)
    have hX : 2 * rate * (X * num) ≤ 2 * rate * (A * unit) :=
      mul_le_mul_of_nonneg_left htime (by omega)
    linarith only [hK, hC, hX, hunit]
  · refine lt_of_mul_lt_mul_left (?_ : num * _ < num * _) hnum.le
    have hK : 2 * unit * (K * num) ≤ 2 * unit * (A * rate) + unit * num := by
      have hround : 2 * (K * num) ≤ 2 * (A * rate) + num := by omega
      linarith only [mul_le_mul_of_nonneg_left hround hunit.le]
    have hC : 2 * num * ((offset + X) * rate) < 2 * num * ((C + 1) * unit) :=
      mul_lt_mul_of_pos_left hclock' (by omega)
    have hX : 2 * rate * (A * unit) ≤ 2 * rate * ((X + 1) * num) :=
      mul_le_mul_of_nonneg_left htime'.le (by omega)
    linarith only [hK, hC, hX]

/-- **Two roundings of one clock never drift apart**: from one event to another the
difference of the two readings moves by two ticks at most. -/
theorem ticks_sub_clockAt_le {rate unit num : Int} (hrate : 0 ≤ rate) (hle : rate ≤ unit)
    (hunit : 0 < unit) (hnum : 0 < num) (A B offset : Int) :
    (ticks rate num A - clockAt rate unit (offset + eventTime unit num A))
      - (ticks rate num B - clockAt rate unit (offset + eventTime unit num B)) ≤ 2 := by
  obtain ⟨_, hA⟩ := ticks_sub_clockAt hrate hunit hnum A offset
  obtain ⟨hB, _⟩ := ticks_sub_clockAt hrate hunit hnum B offset
  generalize ticks rate num A - clockAt rate unit (offset + eventTime unit num A) = dA at *
  generalize ticks rate num B - clockAt rate unit (offset + eventTime unit num B) = dB at *
  have hscaled : 2 * unit * (dA - dB) < 2 * unit * 3 := by linarith only [hA, hB, hle]
  have hdiff : dA - dB < 3 := lt_of_mul_lt_mul_left hscaled (by omega)
  omega

/-- `n / d` to the nearest whole number, halves upwards. -/
def nearest (n d : Nat) : Nat := (n + d / 2) / d

/-- **Rounding to the nearest keeps a distance in whole ticks**: what is at most `c` more is
at most `c` more when rounded. -/
theorem nearest_le_nearest_add {m n d e c : Nat} (hd : 0 < d) (he : 0 < e)
    (h : m * e ≤ n * d + c * d * e) : nearest m d ≤ nearest n e + c := by
  have hm : nearest m d * d ≤ m + d / 2 := Nat.div_mul_le_self _ _
  have hn : n + e / 2 < nearest n e * e + e := Nat.lt_div_mul_add he
  have hm' : 2 * (nearest m d * d) ≤ 2 * m + d := by omega
  have hn' : 2 * n + e < 2 * (nearest n e * e) + 2 * e := by omega
  -- both sides times `2 * d * e`
  refine Nat.le_of_lt_succ (lt_of_mul_lt_mul_left (?_ : 2 * d * e * _ < 2 * d * e * _)
    (Nat.zero_le _))
  have hleft := Nat.mul_le_mul_right e hm'
  have hright := Nat.mul_lt_mul_of_pos_right hn' hd
  nlinarith only [hleft, hright, h]

end Ipmx.Lib.RoundedClock
