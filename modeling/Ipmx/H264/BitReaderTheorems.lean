/-
Ipmx.H264.BitReaderTheorems — `BitReader` reads back the codes of the H.264
syntax: `u(n)` up to 32 bits, `ue(v)` and `se(v)` over their whole ranges.
-/
import Ipmx.H264.BitReader
import Ipmx.Lib.BitCode
import Ipmx.Lib.Reads

namespace Ipmx.H264

open Lib Lib.BitCode

/-! ## `u(n)` -/

/-- The step of `read_bits`. -/
theorem shift_bit_in {value : Nat} (h : value < 2 ^ 32) :
    UInt32.ofNat (value / 2) <<< 1 ||| (if decide (value % 2 = 1) then 1 else 0)
      = UInt32.ofNat value := by
  have hbit : (if decide (value % 2 = 1) then (1 : UInt32) else 0).toNat = value % 2 := by
    rcases Nat.mod_two_eq_zero_or_one value with hmod | hmod <;> simp [hmod]
  have hhalf : (UInt32.ofNat (value / 2)).toNat = value / 2 := by
    simpa using Nat.mod_eq_of_lt (show value / 2 < 4294967296 by omega)
  have hshift : (value / 2) <<< 1 < 2 ^ 32 := by
    rw [Nat.shiftLeft_eq]
    omega
  rw [← UInt32.toNat_inj, UInt32.toNat_or, UInt32.toNat_shiftLeft, hbit, hhalf]
  show (value / 2) <<< 1 % 2 ^ 32 ||| value % 2 = (UInt32.ofNat value).toNat
  rw [Nat.mod_eq_of_lt hshift, ← Nat.shiftLeft_add_eq_or_of_lt (i := 1) (by omega),
    Nat.shiftLeft_eq, UInt32.toNat_ofNat', Nat.mod_eq_of_lt h]
  omega

theorem foldl_fixedBits {width value : Nat} (hwidth : width ≤ 32) (h : value < 2 ^ width) :
    (fixedBits width value).foldl
        (fun (value : UInt32) bit => value <<< 1 ||| (if bit then 1 else 0)) 0
      = UInt32.ofNat value := by
  induction width generalizing value with
  | zero =>
    have hzero : value = 0 := by omega
    rw [hzero]
    rfl
  | succ width ih =>
    have hvalue : value < 2 ^ 32 := lt_of_lt_of_le h (Nat.pow_le_pow_right (by omega) hwidth)
    rw [fixedBits, List.foldl_append, ih (by omega) (by omega)]
    exact shift_bit_in hvalue

theorem reads_bits {width value : Nat} (hwidth : width ≤ 32) (h : value < 2 ^ width) :
    Reads (readBits width) (fixedBits width value) (UInt32.ofNat value) := by
  intro rest
  have hlength : (fixedBits width value ++ rest).length = width + rest.length := by simp
  rw [readBits, if_neg (by omega), List.take_left' (length_fixedBits width value),
    List.drop_left' (length_fixedBits width value), foldl_fixedBits hwidth h]

theorem reads_bit (bit : Bool) : Reads readBit [bit] bit := by
  cases bit with
  | false =>
    intro rest
    rfl
  | true =>
    intro rest
    rfl

/-! ## `ue(v)` and `se(v)` -/

theorem reads_leadingZeroBits {zeros limit : Nat} (h : zeros ≤ limit) :
    Reads (readLeadingZeroBits limit) (List.replicate zeros false ++ [true]) zeros := by
  induction zeros generalizing limit with
  | zero =>
    cases limit with
    | zero => exact (reads_bit true).bind_pure rfl
    | succ limit => exact (reads_bit true).bind_pure rfl
  | succ zeros ih =>
    cases limit with
    | zero => omega
    | succ limit =>
      refine (reads_bit false).bind ?_
      exact (ih (Nat.le_of_succ_le_succ h)).bind_pure rfl

/-- A marker bit and the suffix behind it, as `read_ue` puts them together. -/
theorem codeNum_of_suffix {codeNum : Nat} (h : codeNum < 2 ^ 32 - 1) :
    (1 <<< UInt32.ofNat (leadingZeroBits codeNum)) - 1
      + UInt32.ofNat (codeNum + 1 - 2 ^ leadingZeroBits codeNum) = UInt32.ofNat codeNum := by
  have hzeros : leadingZeroBits codeNum < 32 := leadingZeroBits_lt (by omega)
  have hlow := two_pow_leadingZeroBits_le codeNum
  have hpos : 0 < 2 ^ leadingZeroBits codeNum := Nat.two_pow_pos _
  have hmarker : 1 <<< UInt32.ofNat (leadingZeroBits codeNum)
      = UInt32.ofNat (2 ^ leadingZeroBits codeNum) := by
    rw [← UInt32.toNat_inj, UInt32.toNat_shiftLeft, UInt32.toNat_ofNat', UInt32.toNat_ofNat',
      Nat.mod_eq_of_lt (show leadingZeroBits codeNum < 2 ^ 32 by omega), Nat.mod_eq_of_lt hzeros,
      Nat.shiftLeft_eq]
    simp
  have hone : UInt32.ofNat (2 ^ leadingZeroBits codeNum) - 1
      = UInt32.ofNat (2 ^ leadingZeroBits codeNum - 1) := by
    rw [UInt32.ofNat_sub hpos]
    rfl
  rw [hmarker, hone, ← UInt32.ofNat_add]
  congr 1
  omega

/-- `read_ue` reads every code number up to `2 ^ 32 - 2`. -/
theorem reads_ue {codeNum : Nat} (h : codeNum < 2 ^ 32 - 1) :
    Reads readUe (expGolomb codeNum) (UInt32.ofNat codeNum) := by
  have hzeros : leadingZeroBits codeNum < 32 := leadingZeroBits_lt (by omega)
  rw [expGolomb, List.append_cons]
  refine (reads_leadingZeroBits (by omega)).bind ?_
  refine (reads_bits (by omega) (suffix_lt codeNum)).bind_pure ?_
  rw [codeNum_of_suffix h]

/-- The value `read_se` makes of a code number. -/
theorem signedValue_of_codeNum {value : Int} (hcode : signedCodeNum value ≤ 2 * 2147483647) :
    (if UInt32.ofNat (signedCodeNum value) &&& 1 ≠ 0
      then (((UInt32.ofNat (signedCodeNum value) + 1) / 2).toNat : Int)
      else -((UInt32.ofNat (signedCodeNum value) / 2).toNat : Int)) = value := by
  have htoNat : (UInt32.ofNat (signedCodeNum value)).toNat = signedCodeNum value := by
    simpa using Nat.mod_eq_of_lt (show signedCodeNum value < 4294967296 by omega)
  have hlow : (UInt32.ofNat (signedCodeNum value) &&& 1 ≠ 0) ↔ signedCodeNum value % 2 = 1 := by
    rw [Ne, ← UInt32.toNat_inj, UInt32.toNat_and, htoNat]
    simp
  have hodd : ((UInt32.ofNat (signedCodeNum value) + 1) / 2).toNat
      = (signedCodeNum value + 1) / 2 := by
    rw [UInt32.toNat_div, UInt32.toNat_add, htoNat]
    show (signedCodeNum value + 1) % 2 ^ 32 / 2 = (signedCodeNum value + 1) / 2
    omega
  have heven : (UInt32.ofNat (signedCodeNum value) / 2).toNat = signedCodeNum value / 2 := by
    rw [UInt32.toNat_div, htoNat]
    rfl
  rw [hodd, heven]
  by_cases hpos : 0 < value
  · have hnum : signedCodeNum value = 2 * value.toNat - 1 := if_pos hpos
    rw [if_pos (hlow.mpr (by omega))]
    omega
  · have hnum : signedCodeNum value = 2 * (-value).toNat := if_neg hpos
    rw [if_neg (fun h => by have := hlow.mp h; omega)]
    omega

/-- `read_se` reads every value between `-(2 ^ 31 - 1)` and `2 ^ 31 - 1`. -/
theorem reads_se {value : Int} (hlow : -(2 ^ 31 : Int) < value) (hhigh : value < 2 ^ 31) :
    Reads readSe (signedExpGolomb value) value := by
  have hcode : signedCodeNum value ≤ 2 * 2147483647 := signedCodeNum_le (by omega) (by omega)
  have hguard : UInt32.ofNat (signedCodeNum value) ≤ 2147483647 * 2 := by
    rw [UInt32.le_iff_toNat_le, UInt32.toNat_ofNat', Nat.mod_eq_of_lt (by omega)]
    exact hcode
  rw [← List.append_nil (signedExpGolomb value)]
  refine (reads_ue (by omega)).bind ?_
  refine (Reads.guard_pos hguard).bind_pure ?_
  exact congrArg pure (signedValue_of_codeNum hcode)

end Ipmx.H264
