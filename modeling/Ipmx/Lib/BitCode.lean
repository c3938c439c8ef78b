/-
Ipmx.Lib.BitCode — the bit codes of video syntax, as bit strings.

`fixedBits` is an unsigned numeral of a fixed width, `expGolomb` the unsigned
Exp-Golomb code and `signedExpGolomb` its signed form. Numbers are unbounded
here: how far a reader goes is the reader's own matter.
-/
import Mathlib.Data.Nat.Log
import Mathlib.Tactic.Ring

namespace Ipmx.Lib.BitCode

/-- The `width` low bits of `value`, most significant first: `u(n)`. -/
def fixedBits : Nat → Nat → List Bool
  | 0, _ => []
  | width + 1, value => fixedBits width (value / 2) ++ [decide (value % 2 = 1)]

@[simp] theorem length_fixedBits (width value : Nat) : (fixedBits width value).length = width := by
  induction width generalizing value with
  | zero => rfl
  | succ width ih => simp [fixedBits, ih]

/-- The zeros in front of the marker bit of a code number: `2 ^ k - 1 ≤ codeNum < 2 ^ (k+1) - 1`. -/
def leadingZeroBits (codeNum : Nat) : Nat := (codeNum + 1).log2

/-- `ue(v)`: the zeros, the marker bit and as many bits as there were zeros. -/
def expGolomb (codeNum : Nat) : List Bool :=
  List.replicate (leadingZeroBits codeNum) false
    ++ true :: fixedBits (leadingZeroBits codeNum) (codeNum + 1 - 2 ^ leadingZeroBits codeNum)

/-- The code number of a signed value: positive values are odd, the others even. -/
def signedCodeNum (value : Int) : Nat :=
  if 0 < value then 2 * value.toNat - 1 else 2 * (-value).toNat

/-- `se(v)`. -/
def signedExpGolomb (value : Int) : List Bool := expGolomb (signedCodeNum value)

theorem two_pow_leadingZeroBits_le (codeNum : Nat) : 2 ^ leadingZeroBits codeNum ≤ codeNum + 1 :=
  Nat.log2_self_le (by omega)

theorem lt_two_pow_leadingZeroBits (codeNum : Nat) :
    codeNum + 1 < 2 * 2 ^ leadingZeroBits codeNum := by
  have h : codeNum + 1 < 2 ^ (leadingZeroBits codeNum + 1) := Nat.lt_log2_self
  omega

/-- The suffix of a code fits its width. -/
theorem suffix_lt (codeNum : Nat) :
    codeNum + 1 - 2 ^ leadingZeroBits codeNum < 2 ^ leadingZeroBits codeNum := by
  have h := lt_two_pow_leadingZeroBits codeNum
  omega

/-- Code numbers below `2 ^ n - 1` have fewer than `n` zeros in front. -/
theorem leadingZeroBits_lt {codeNum n : Nat} (h : codeNum + 1 < 2 ^ n) :
    leadingZeroBits codeNum < n :=
  (Nat.log2_lt (by omega)).mpr h

theorem signedCodeNum_le {value : Int} {bound : Nat} (hlow : -(bound : Int) ≤ value)
    (hhigh : value ≤ bound) : signedCodeNum value ≤ 2 * bound := by
  unfold signedCodeNum
  split <;> omega

end Ipmx.Lib.BitCode
