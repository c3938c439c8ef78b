/-
Ipmx.Lib.OnesComplement — 16-bit one's complement sums.

The words of a byte string are added up, and what does not fit 16 bits is
added to the low 16 bits until everything fits (`fold`). Adding a carry at the
low end keeps the sum modulo 65535, so a sum and the complement of its fold
together fold to 65535, all bits set (`fold_add_complement`): this is why a
header with its checksum in place verifies.
-/
import Ipmx.Lib.BigEndian

namespace Ipmx.Lib.OnesComplement

/-- The sum of the 16-bit words; an odd byte at the end is left out. -/
def wordSum : List UInt8 → Nat
  | high :: low :: rest => (high.toNat <<< 8 ||| low.toNat) + wordSum rest
  | _ => 0

/-- The loop that adds the carry to the low bits, for at most `fuel` rounds. -/
def foldLoop : Nat → Nat → Nat
  | 0, sum => sum
  | fuel + 1, sum => if sum >>> 16 = 0 then sum else foldLoop fuel ((sum &&& 0xFFFF) + (sum >>> 16))

/-- Every round makes the sum smaller, so the sum is enough fuel. -/
def fold (sum : Nat) : Nat := foldLoop sum sum

/-- One round of the loop, over the numbers. -/
theorem round_eq (sum : Nat) : (sum &&& 0xFFFF) + (sum >>> 16) = sum % 65536 + sum / 65536 := by
  rw [Nat.shiftRight_eq_div_pow, show (0xFFFF : Nat) = 2 ^ 16 - 1 from rfl,
    Nat.and_two_pow_sub_one_eq_mod]

/-- The loop ends on 16 bits, with the same sum modulo 65535, and not on 0 from above. -/
theorem foldLoop_spec {fuel sum : Nat} (h : sum ≤ fuel) :
    foldLoop fuel sum < 65536 ∧ foldLoop fuel sum % 65535 = sum % 65535
      ∧ (0 < sum → 0 < foldLoop fuel sum) := by
  induction fuel generalizing sum with
  | zero =>
    obtain rfl := Nat.le_zero.mp h
    exact ⟨by decide, rfl, id⟩
  | succ fuel ih =>
    have hshift : sum >>> 16 = sum / 65536 := Nat.shiftRight_eq_div_pow sum 16
    rw [foldLoop, round_eq, hshift]
    by_cases hfits : sum / 65536 = 0
    · rw [if_pos hfits]
      exact ⟨by omega, rfl, id⟩
    · rw [if_neg hfits]
      have hsmaller : sum % 65536 + sum / 65536 ≤ fuel := by omega
      obtain ⟨hlt, hmod, hpositive⟩ := ih hsmaller
      exact ⟨hlt, by omega, fun _ => hpositive (by omega)⟩

theorem fold_lt (sum : Nat) : fold sum < 65536 := (foldLoop_spec (Nat.le_refl sum)).1

/-- **A sum and the complement of its fold** fold to all bits set. -/
theorem fold_add_complement (sum : Nat) : fold (sum + (65535 - fold sum)) = 65535 := by
  obtain ⟨hlt, hmod, hpositive⟩ := foldLoop_spec (Nat.le_refl sum)
  obtain ⟨hlt', hmod', hpositive'⟩ := foldLoop_spec (Nat.le_refl (sum + (65535 - fold sum)))
  unfold fold at *
  have htotal : 0 < sum + (65535 - foldLoop sum sum) := by
    rcases Nat.eq_zero_or_pos sum with rfl | hsum
    · exact Nat.lt_of_lt_of_eq (by decide) rfl
    · omega
  have hresult := hpositive' htotal
  omega

/-! ## Words of a byte string -/

theorem wordSum_append {front : List UInt8} (h : front.length % 2 = 0) (back : List UInt8) :
    wordSum (front ++ back) = wordSum front + wordSum back := by
  induction front using wordSum.induct with
  | case1 high low rest ih =>
    simp only [List.length_cons] at h
    rw [List.cons_append, List.cons_append, wordSum, wordSum, ih (by omega), Nat.add_assoc]
  | case2 front hshort =>
    rcases front with _ | ⟨byte, _ | ⟨low, rest⟩⟩
    · have hnil : wordSum [] = 0 := rfl
      rw [List.nil_append, hnil, Nat.zero_add]
    · simp at h
    · exact absurd rfl (hshort byte low rest)

/-- A word that is written big-endian adds its value. -/
theorem wordSum_encode {value : Nat} (h : value < 65536) :
    wordSum (BigEndian.encode 2 value) = value := by
  have hhigh : (UInt8.ofNat (value / 256 ^ 1)).toNat = value / 256 := by
    simp
    omega
  have hlow : (UInt8.ofNat (value / 256 ^ 0)).toNat = value % 256 := by
    simp
  have hword : wordSum (BigEndian.encode 2 value)
      = ((UInt8.ofNat (value / 256 ^ 1)).toNat <<< 8
          ||| (UInt8.ofNat (value / 256 ^ 0)).toNat) := rfl
  rw [hword, BigEndian.shiftLeft_or_eq _ (UInt8.toNat_lt _), hhigh, hlow]
  omega

end Ipmx.Lib.OnesComplement
