/-
Ipmx.Lib.Binary64 — doubles that are not negative, as rational numbers.

`Float` computes through a model of mantissas and exponents. `IsValue` gives a
double that is zero or normal its number. Comparing two of them compares their
numbers (`le_iff`, `lt_iff`), and converting a 64-bit number and dividing two
doubles round faithfully (`isValue_toFloat`, `isValue_div`): no number of 53 bits
lies strictly between the exact result and the rounded one. Faithful rounding is
all that bounds on a result need.
-/
import Mathlib

namespace Ipmx.Lib.Binary64

open Float.Model Float.Model.UnpackedFloat

/-! ## Mantissas and exponents -/

/-- The number `m * 2 ^ e`. -/
def scaled (m : ℕ) (e : ℤ) : ℚ := m * 2 ^ e

section Scaled

variable {m m' : ℕ} {e e' : ℤ}

theorem scaled_le_iff : scaled m e ≤ scaled m' e ↔ m ≤ m' := by
  have hpos : (0 : ℚ) < 2 ^ e := zpow_pos (by norm_num) e
  rw [scaled, scaled, mul_le_mul_iff_of_pos_right hpos, Nat.cast_le]

theorem scaled_lt_iff : scaled m e < scaled m' e ↔ m < m' := by
  rw [← not_le, ← not_le, scaled_le_iff]

theorem scaled_mul_pow (m k : ℕ) (e : ℤ) : scaled (m * 2 ^ k) e = scaled m (e + k) := by
  rw [scaled, scaled, zpow_add₀ (by norm_num), zpow_natCast]
  push_cast
  ring

theorem scaled_pos (hm : 0 < m) : 0 < scaled m e :=
  mul_pos (Nat.cast_pos.mpr hm) (zpow_pos (by norm_num) e)

/-- A smaller exponent is a smaller number, if the mantissas have 53 bits. -/
theorem scaled_lt_of_exponent (hm : m < 2 ^ 53) (hm' : 2 ^ 52 ≤ m') (he : e < e') :
    scaled m e < scaled m' e' := by
  obtain ⟨k, rfl⟩ := Int.le.dest (Int.add_one_le_iff.mpr he)
  calc scaled m e < scaled (2 ^ 52 * 2) e := scaled_lt_iff.mpr (by omega)
    _ = scaled (2 ^ 52) (e + 1) := by
      have h := scaled_mul_pow (2 ^ 52) 1 e
      simpa using h
    _ ≤ scaled (m' * 2 ^ k) (e + 1) :=
      scaled_le_iff.mpr (hm'.trans (Nat.le_mul_of_pos_right m' (Nat.two_pow_pos k)))
    _ = scaled m' (e + 1 + k) := scaled_mul_pow m' k _

end Scaled

/-! ## Faithful rounding -/

/-- The numbers of 53 bits. -/
def Short (z : ℚ) : Prop := ∃ k < 2 ^ 53, ∃ j, z = scaled k j

theorem short_natCast {n : ℕ} (h : n < 2 ^ 53) : Short n :=
  ⟨n, h, 0, by rw [scaled, zpow_zero, mul_one]⟩

/-- No number of 53 bits lies strictly between `x` and `y`. -/
structure Faithful (x y : ℚ) : Prop where
  le : ∀ z, Short z → z ≤ x → z ≤ y
  ge : ∀ z, Short z → x ≤ z → y ≤ z

/-- A number of 53 bits is rounded to itself. -/
theorem Faithful.eq {x y : ℚ} (h : Faithful x y) (hx : Short x) : y = x :=
  le_antisymm (h.ge x hx le_rfl) (h.le x hx le_rfl)

theorem Faithful.zero : Faithful 0 0 := ⟨fun _ _ h => h, fun _ _ h => h⟩

/-- Above `2 ^ 52` units the numbers of 53 bits are whole. -/
theorem short_cases {z : ℚ} (hz : Short z) (e : ℤ) :
    z < scaled (2 ^ 52) e ∨ ∃ k, z = scaled k e := by
  obtain ⟨k, hk, j, rfl⟩ := hz
  rcases lt_or_ge j e with hlow | hhigh
  · exact .inl (scaled_lt_of_exponent hk (le_refl _) hlow)
  · obtain ⟨n, rfl⟩ := Int.le.dest hhigh
    exact .inr ⟨k * 2 ^ n, (scaled_mul_pow k n e).symm⟩

/-- Rounding to one of the two next units is faithful, if a whole number stays as it is. -/
theorem faithful_scaled {x : ℚ} {m r : ℕ} {e : ℤ} (hm : 2 ^ 52 ≤ m) (hle : scaled m e ≤ x)
    (hlt : x < scaled (m + 1) e) (hr : r = m ∨ r = m + 1 ∧ scaled m e < x) :
    Faithful x (scaled r e) := by
  have hmr : m ≤ r := by omega
  constructor
  · intro z hz hzx
    rcases short_cases hz e with hsmall | ⟨k, rfl⟩
    · exact hsmall.le.trans (scaled_le_iff.mpr (hm.trans hmr))
    · have hk := scaled_lt_iff.mp (hzx.trans_lt hlt)
      exact scaled_le_iff.mpr (by omega)
  · intro z hz hxz
    rcases short_cases hz e with hsmall | ⟨k, rfl⟩
    · have habove := (hle.trans hxz).trans_lt hsmall
      exact absurd (scaled_lt_iff.mp habove) (Nat.not_lt.mpr hm)
    · refine scaled_le_iff.mpr ?_
      rcases hr with rfl | ⟨rfl, habove⟩
      · exact scaled_le_iff.mp (hle.trans hxz)
      · exact scaled_lt_iff.mp (habove.trans_le hxz)

/-! ## The numbers of the model -/

/-- A double that is zero or normal, with its number. Its exponent is not above `bound` in
size. -/
inductive Regular (bound : ℕ) : UnpackedFloat → ℚ → Prop
  | zero : Regular bound (.zero .positive) 0
  | finite {m : ℕ} {e : ℤ} (hpos : 0 < m) (hlow : 2 ^ 52 ≤ m) (hhigh : m < 2 ^ 53)
      (hmin : -bound ≤ e) (hmax : e ≤ bound) :
      Regular bound (.finite .positive m e hpos) (scaled m e)

section Regular

variable {bound bound' : ℕ} {u v : UnpackedFloat} {x y : ℚ}

theorem Regular.mono (h : Regular bound u x) (hle : bound ≤ bound') : Regular bound' u x := by
  cases h with
  | zero => exact .zero
  | finite hpos hlow hhigh hmin hmax => exact .finite hpos hlow hhigh (by omega) (by omega)

/-- Comparing is comparing the numbers. -/
theorem Regular.compare (hu : Regular bound u x) (hv : Regular bound' v y) :
    u.compare v = some (if x < y then .lt else if x = y then .eq else .gt) := by
  cases hu with
  | zero =>
    cases hv with
    | zero => rfl
    | finite hpos => rw [if_pos (scaled_pos hpos)]; rfl
  | @finite m e hpos hlow hhigh =>
    cases hv with
    | zero =>
      have habove := scaled_pos (e := e) hpos
      rw [if_neg habove.not_gt, if_neg habove.ne']
      rfl
    | @finite m' e' hpos' hlow' hhigh' =>
      show some ((Ord.compare e e').then (Ord.compare m m')) = _
      rcases lt_trichotomy e e' with hlt | rfl | hgt
      · rw [compare_lt_iff_lt.mpr hlt, if_pos (scaled_lt_of_exponent hhigh hlow' hlt)]
        rfl
      · rw [compare_eq_iff_eq.mpr rfl, Ordering.eq_then]
        rcases lt_trichotomy m m' with hlt | rfl | hgt
        · rw [compare_lt_iff_lt.mpr hlt, if_pos (scaled_lt_iff.mpr hlt)]
        · rw [compare_eq_iff_eq.mpr rfl, if_neg (lt_irrefl _), if_pos rfl]
        · have habove := scaled_lt_iff (e := e).mpr hgt
          rw [compare_gt_iff_gt.mpr hgt, if_neg habove.not_gt, if_neg habove.ne']
      · have habove := scaled_lt_of_exponent hhigh' hlow hgt
        rw [compare_gt_iff_gt.mpr hgt, if_neg habove.not_gt, if_neg habove.ne']
        rfl

section Components

variable {format : Float.Model.Format} {exponent : BitVec format.exponentBits}
variable {mantissa : BitVec format.mantissaBitsWithoutImplicit}

theorem unpack_packComponents (hfinite : exponent ≠ -1#_) (hnormal : exponent ≠ 0#_) :
    UnpackedFloat.unpack format (packComponents format .positive exponent mantissa)
      = .finite .positive (1#1 ++ mantissa).toNat
        (exponent.toNat - (format.exponentBias + format.mantissaBitsWithoutImplicit))
        (by simp) := by
  simp only [UnpackedFloat.unpack, unpackMantissa_packComponents, unpackExponent_packComponents,
    unpackSign_packComponents, Sign.ofBitVec_toBitVec, hfinite, hnormal, if_false]

end Components

/-- The components of a normal number. -/
theorem pack_normal {m : ℕ} {e : ℤ} (hpos : 0 < m) (hlog : m.log2 = 52) (hmax : e ≤ 971) :
    UnpackedFloat.pack Format.binary64 (.finite .positive m e hpos)
      = packComponents Format.binary64 .positive (BitVec.ofNat 11 (e + 1075).toNat)
        (BitVec.ofNat 52 m) := by
  have hbias : (e + (Format.binary64.exponentBias : ℤ)
      + (Format.binary64.mantissaBitsWithoutImplicit : ℤ)).toNat = (e + 1075).toNat := by
    have hsum : (Format.binary64.exponentBias : ℤ) = 1023 := rfl
    have hbits : (Format.binary64.mantissaBitsWithoutImplicit : ℤ) = 52 := rfl
    omega
  have hfits : ¬ 2 ^ Format.binary64.exponentBits ≤ (e + 1075).toNat + 1 := by
    show ¬ 2 ^ 11 ≤ _
    omega
  rw [UnpackedFloat.pack]
  dsimp only
  rw [hbias, if_neg hfits, if_pos (by rw [hlog]; rfl)]

/-- What is regular survives its representation in 64 bits. -/
theorem Regular.unpack_pack (h : Regular bound u x) (hbound : bound ≤ 900) :
    UnpackedFloat.unpack Format.binary64 (UnpackedFloat.pack Format.binary64 u) = u := by
  cases h with
  | zero => rfl
  | @finite m e hpos hlow hhigh hmin hmax =>
    have hlog : m.log2 = 52 := (Nat.log2_eq_iff hpos.ne').mpr ⟨hlow, hhigh⟩
    rw [pack_normal hpos hlog (by omega)]
    have hexponent : (BitVec.ofNat 11 (e + 1075).toNat).toNat = (e + 1075).toNat := by
      rw [BitVec.toNat_ofNat, Nat.mod_eq_of_lt (by omega)]
    have hmantissa : (1#1 ++ BitVec.ofNat 52 m).toNat = m := by
      rw [BitVec.toNat_append, ← Nat.shiftLeft_add_eq_or_of_lt (BitVec.isLt _),
        BitVec.toNat_ofNat, Nat.shiftLeft_eq]
      show 1 * 2 ^ 52 + m % 2 ^ 52 = m
      omega
    have hfinite : BitVec.ofNat 11 (e + 1075).toNat ≠ -1#11 := by
      intro heq
      have hall : (e + 1075).toNat = 2047 := hexponent.symm.trans (congrArg BitVec.toNat heq)
      omega
    have hnormal : BitVec.ofNat 11 (e + 1075).toNat ≠ 0#11 := by
      intro heq
      have hnone : (e + 1075).toNat = 0 := hexponent.symm.trans (congrArg BitVec.toNat heq)
      omega
    rw [unpack_packComponents hfinite hnormal]
    congr 1
    rw [hexponent]
    show ((e + 1075).toNat : ℤ) - (1023 + 52) = e
    omega

end Regular

/-! ## Rounding -/

/-- A mantissa is the whole part of `x` in units of its exponent, and its two bits are clear
exactly if nothing is cut off. -/
structure Truncates (x : ℚ) (em : ExtendedMantissa) (e : ℤ) : Prop where
  le : scaled em.mantissa e ≤ x
  lt : x < scaled (em.mantissa + 1) e
  exact : (em.roundBit || em.stickyBit) = false ↔ scaled em.mantissa e = x

section Rounding

variable {x : ℚ} {em : ExtendedMantissa} {m : ℕ} {e : ℤ} {accuracy : Accuracy}

theorem truncates_exact (m : ℕ) (e : ℤ) :
    Truncates (scaled m e) (.ofMantissaAndAccuracy m .exact) e :=
  ⟨le_rfl, scaled_lt_iff.mpr (Nat.lt_succ_self m), iff_of_true rfl rfl⟩

theorem Truncates.shiftRightOne (h : Truncates x em e) : Truncates x em.shiftRightOne (e + 1) := by
  have hdouble : ∀ k, scaled k (e + 1) = scaled (k * 2) e := fun k => (scaled_mul_pow k 1 e).symm
  have hhalf := Nat.div_add_mod em.mantissa 2
  have hmod := Nat.mod_lt em.mantissa two_pos
  constructor
  · show scaled (em.mantissa / 2) (e + 1) ≤ x
    rw [hdouble]
    exact (scaled_le_iff.mpr (Nat.div_mul_le_self _ _)).trans h.le
  · show x < scaled (em.mantissa / 2 + 1) (e + 1)
    rw [hdouble]
    exact h.lt.trans_le (scaled_le_iff.mpr (by omega))
  · show ((em.mantissa % 2 != 0) || (em.roundBit || em.stickyBit)) = false
      ↔ scaled (em.mantissa / 2) (e + 1) = x
    rw [hdouble, Bool.or_eq_false_iff, h.exact, bne_eq_false_iff_eq]
    constructor
    · rintro ⟨heven, rfl⟩
      congr 1
      omega
    · intro hx
      have hle := h.le
      rw [← hx, scaled_le_iff] at hle
      have hwhole : em.mantissa / 2 * 2 = em.mantissa := by omega
      rw [hwhole] at hx
      exact ⟨by omega, hx⟩

theorem Truncates.shiftRight (h : Truncates x em e) (n : ℕ) : Truncates x (em >>> n) (e + n) := by
  induction n with
  | zero =>
    rw [Nat.cast_zero, add_zero]
    exact h
  | succ n ih =>
    rw [Nat.cast_succ, ← add_assoc]
    exact ih.shiftRightOne

theorem mantissa_shiftRight (em : ExtendedMantissa) (n : ℕ) :
    (em >>> n).mantissa = em.mantissa / 2 ^ n := by
  induction n with
  | zero => exact (Nat.div_one _).symm
  | succ n ih =>
    show (em >>> n).mantissa / 2 = _
    rw [ih, Nat.div_div_eq_div_mul, Nat.pow_succ]

theorem mantissa_ofMantissaAndAccuracy :
    (ExtendedMantissa.ofMantissaAndAccuracy m accuracy).mantissa = m := by
  rcases accuracy with _ | (_ | _ | _) <;> rfl

/-- Rounding goes up only if something is cut off. -/
theorem Truncates.rounded (h : Truncates x em e) :
    em.roundedMantissa = em.mantissa
      ∨ em.roundedMantissa = em.mantissa + 1 ∧ scaled em.mantissa e < x := by
  obtain ⟨m, round, sticky⟩ := em
  have hcut : (round || sticky) = true → scaled m e < x := by
    intro hbits
    refine lt_of_le_of_ne h.le fun heq => ?_
    have hclear := h.exact.mpr heq
    rw [hbits] at hclear
    cases hclear
  cases round with
  | false =>
    cases sticky with
    | false => exact .inl rfl
    | true => exact .inl rfl
  | true =>
    cases sticky with
    | true => exact .inr ⟨rfl, hcut rfl⟩
    | false =>
      rcases Nat.mod_two_eq_zero_or_one m with heven | hodd
      · exact .inl (congrArg (m + ·) heven)
      · exact .inr ⟨congrArg (m + ·) hodd, hcut rfl⟩

/-- A mantissa of at least 53 bits is cut to 53 bits. -/
theorem shiftToTargetExponent_eq (hm : 52 ≤ m.log2) (he : -1074 ≤ e) :
    shiftToTargetExponent Format.binary64 m e accuracy
      = (ExtendedMantissa.ofMantissaAndAccuracy m accuracy >>> (m.log2 - 52),
        e + (m.log2 - 52 : ℕ)) := by
  have htarget : Format.binary64.targetExponent (totalExponent m e) = e + (m.log2 - 52 : ℕ) := by
    show max ((m.log2 + 1 + e : ℤ) - 53) (-1074) = _
    omega
  have hshift : (e + (m.log2 - 52 : ℕ) - e).toNat = m.log2 - 52 := by omega
  unfold shiftToTargetExponent shiftToExponent
  rw [htarget]
  dsimp only
  rw [hshift]

theorem roundWithAccuracy_eq {em em' : ExtendedMantissa} {e₁ e₂ : ℤ}
    (hcut : shiftToTargetExponent Format.binary64 m e accuracy = (em, e₁))
    (hcut' : shiftToTargetExponent Format.binary64 em.roundedMantissa e₁ .exact = (em', e₂))
    (hpos : 0 < em'.mantissa) :
    roundWithAccuracy Format.binary64 .positive m e accuracy
      = .finite .positive em'.mantissa e₂ hpos := by
  unfold roundWithAccuracy
  rw [hcut]
  dsimp only
  rw [hcut']
  dsimp only
  rw [dif_neg hpos.ne']

/-- Behind the rounding the mantissa is cut once more, which loses nothing. -/
theorem cut_rounded {r : ℕ} {e : ℤ} (hr : 2 ^ 52 ≤ r) (hr' : r ≤ 2 ^ 53) (he : -1074 ≤ e) :
    ∃ em e', shiftToTargetExponent Format.binary64 r e .exact = (em, e')
      ∧ 2 ^ 52 ≤ em.mantissa ∧ em.mantissa < 2 ^ 53 ∧ scaled em.mantissa e' = scaled r e
      ∧ e ≤ e' ∧ e' ≤ e + 1 := by
  have hpos : r ≠ 0 := by omega
  have hlog : 52 ≤ r.log2 := (Nat.le_log2 hpos).mpr hr
  have hmantissa : (ExtendedMantissa.ofMantissaAndAccuracy r .exact >>> (r.log2 - 52)).mantissa
      = r / 2 ^ (r.log2 - 52) := by
    rw [mantissa_shiftRight, mantissa_ofMantissaAndAccuracy]
  refine ⟨_, _, shiftToTargetExponent_eq hlog he, ?_⟩
  rw [hmantissa]
  rcases Nat.lt_or_eq_of_le hr' with hsmall | rfl
  · have hlast : r.log2 - 52 = 0 := by
      have hlog' := (Nat.log2_lt hpos).mpr hsmall
      omega
    rw [hlast, pow_zero, Nat.div_one, Nat.cast_zero, add_zero]
    exact ⟨hr, hsmall, rfl, le_rfl, by omega⟩
  · have hone : (2 ^ 53 : ℕ).log2 - 52 = 1 := by rw [Nat.log2_two_pow]
    rw [hone]
    exact ⟨by norm_num, by norm_num, (scaled_mul_pow _ 1 e).symm, by omega, by omega⟩

/-- **Rounding is faithful.** -/
theorem regular_round {bound : ℕ} (hbound : bound ≤ 900) (hm : 52 ≤ m.log2)
    (h : Truncates x (.ofMantissaAndAccuracy m accuracy) e) (hmin : -bound ≤ e)
    (hmax : e + m.log2 - 51 ≤ bound) :
    ∃ y, Regular bound (roundWithAccuracy Format.binary64 .positive m e accuracy) y
      ∧ Faithful x y := by
  have hpos : m ≠ 0 := by
    rintro rfl
    rw [Nat.log2_zero] at hm
    omega
  obtain ⟨hlow, hhigh⟩ := (Nat.log2_eq_iff hpos).mp rfl
  have hcut := h.shiftRight (m.log2 - 52)
  have hfirst := @shiftToTargetExponent_eq m e accuracy hm (by omega)
  have hmantissa : (ExtendedMantissa.ofMantissaAndAccuracy m accuracy >>> (m.log2 - 52)).mantissa
      = m / 2 ^ (m.log2 - 52) := by
    rw [mantissa_shiftRight, mantissa_ofMantissaAndAccuracy]
  have hbits : 2 ^ 52 ≤ m / 2 ^ (m.log2 - 52) ∧ m / 2 ^ (m.log2 - 52) < 2 ^ 53 := by
    rw [Nat.le_div_iff_mul_le (Nat.two_pow_pos _), Nat.div_lt_iff_lt_mul (Nat.two_pow_pos _),
      ← pow_add, ← pow_add, Nat.add_sub_cancel' hm]
    have hnext : 53 + (m.log2 - 52) = m.log2 + 1 := by omega
    rw [hnext]
    exact ⟨hlow, hhigh⟩
  rw [← hmantissa] at hbits
  generalize ExtendedMantissa.ofMantissaAndAccuracy m accuracy >>> (m.log2 - 52) = em at *
  have hrounded := hcut.rounded
  have hfaithful := faithful_scaled hbits.1 hcut.le hcut.lt hrounded
  obtain ⟨em', e', hsecond, hlow', hhigh', hsame, hle, hle'⟩ :=
    cut_rounded (r := em.roundedMantissa) (e := e + (m.log2 - 52 : ℕ)) (by omega) (by omega)
      (by omega)
  rw [roundWithAccuracy_eq hfirst hsecond (by omega)]
  exact ⟨_, .finite (by omega) hlow' hhigh' (by omega) (by omega), hsame ▸ hfaithful⟩

end Rounding

/-! ## Operations -/

/-- The number of a double that is zero or normal. -/
def IsValue (bound : ℕ) (f : Float) (x : ℚ) : Prop := Regular bound f.toModel.unpack x

section Operations

variable {bound bound' : ℕ} {u v : UnpackedFloat} {f g : Float} {x y : ℚ}

theorem Regular.pack (h : Regular bound u x) (hbound : bound ≤ 900) :
    Regular bound (Float.Model.pack u).unpack x := by
  have hpack : (Float.Model.pack u).unpack = u := h.unpack_pack hbound
  rw [hpack]
  exact h

theorem regular_ofNat {n : ℕ} (hn : n < 2 ^ 64) :
    ∃ y, Regular 64 (UnpackedFloat.ofNat Format.binary64 n) y ∧ Faithful n y := by
  rcases Nat.eq_zero_or_pos n with rfl | hpos
  · exact ⟨0, .zero, by rw [Nat.cast_zero]; exact .zero⟩
  · have hsign : compare (n : ℤ) 0 = .gt := compare_gt_iff_gt.mpr (Int.natCast_pos.mpr hpos)
    have htarget : Format.binary64.targetExponent (totalExponent n 0) = (n.log2 : ℤ) - 52 := by
      show max ((n.log2 + 1 + 0 : ℤ) - 53) (-1074) = _
      omega
    have hshift : (0 - ((n.log2 : ℤ) - 52)).toNat = 52 - n.log2 := by omega
    have hlog : n.log2 < 64 := (Nat.log2_lt hpos.ne').mpr hn
    have hlog' : (n <<< (52 - n.log2)).log2 = n.log2 + (52 - n.log2) := by
      obtain ⟨hlow, hhigh⟩ := (Nat.log2_eq_iff hpos.ne').mp rfl
      rw [Nat.shiftLeft_eq]
      refine (Nat.log2_eq_iff (by positivity)).mpr ⟨?_, ?_⟩
      · rw [pow_add]
        exact Nat.mul_le_mul_right _ hlow
      · rw [Nat.add_right_comm, pow_add]
        exact Nat.mul_lt_mul_of_pos_right hhigh (Nat.two_pow_pos _)
    have hvalue : scaled (n <<< (52 - n.log2)) (0 - (52 - n.log2 : ℕ)) = n := by
      rw [Nat.shiftLeft_eq, scaled_mul_pow, sub_add_cancel, scaled, zpow_zero, mul_one]
    have hexact := truncates_exact (n <<< (52 - n.log2)) (0 - (52 - n.log2 : ℕ))
    rw [hvalue] at hexact
    have hrounded := @regular_round _ _ _ _ 64 (by norm_num) (by omega) hexact (by omega) (by omega)
    unfold UnpackedFloat.ofNat UnpackedFloat.ofInt UnpackedFloat.normalize
    rw [hsign]
    dsimp only
    unfold UnpackedFloat.round decreaseExponent
    rw [Int.toNat_natCast, htarget]
    dsimp only
    rw [hshift]
    exact hrounded

/-- **A conversion** is faithful. -/
theorem isValue_toFloat (n : UInt64) : ∃ y, IsValue 64 n.toFloat y ∧ Faithful n.toNat y := by
  obtain ⟨y, hregular, hfaithful⟩ := regular_ofNat n.toNat_lt
  exact ⟨y, hregular.pack (by norm_num), hfaithful⟩

/-- A conversion of 32 bits is exact. -/
theorem isValue_toFloat32 (n : UInt32) : IsValue 64 n.toFloat n.toNat := by
  have hlt := n.toNat_lt
  obtain ⟨y, hregular, hfaithful⟩ := regular_ofNat (n := n.toNat) (by omega)
  rw [hfaithful.eq (short_natCast (by omega))] at hregular
  exact hregular.pack (by norm_num)

/-- The bits of a quotient are clear exactly if there is no remainder. -/
theorem bits_accuracyOfFraction (m numerator denominator : ℕ) :
    ((ExtendedMantissa.ofMantissaAndAccuracy m (accuracyOfFraction numerator denominator)).roundBit
      || (ExtendedMantissa.ofMantissaAndAccuracy m
        (accuracyOfFraction numerator denominator)).stickyBit) = false ↔ numerator = 0 := by
  unfold accuracyOfFraction
  split
  · next hzero => exact iff_of_true rfl hzero
  · next hrest =>
    refine iff_of_false ?_ hrest
    cases compare (2 * numerator) denominator <;> exact Bool.noConfusion

theorem truncates_div {m d : ℕ} (hd : 0 < d) (e : ℤ) :
    Truncates (scaled m e / d)
      (.ofMantissaAndAccuracy (m / d) (accuracyOfFraction (m % d) d)) e := by
  have hdpos : (0 : ℚ) < d := Nat.cast_pos.mpr hd
  have hdiv := Nat.div_add_mod m d
  have hmod := Nat.mod_lt m hd
  have hscaled : ∀ k, scaled k e * d = scaled (k * d) e := by
    intro k
    rw [scaled, scaled, Nat.cast_mul]
    ring
  have hmantissa : ((ExtendedMantissa.ofMantissaAndAccuracy (m / d)
      (accuracyOfFraction (m % d) d))).mantissa = m / d := mantissa_ofMantissaAndAccuracy
  refine ⟨?_, ?_, ?_⟩
  · rw [hmantissa, le_div_iff₀ hdpos, hscaled, scaled_le_iff]
    exact Nat.div_mul_le_self m d
  · rw [hmantissa, div_lt_iff₀ hdpos, hscaled, scaled_lt_iff, Nat.add_mul, Nat.mul_comm]
    omega
  · rw [hmantissa, eq_div_iff hdpos.ne', hscaled, bits_accuracyOfFraction]
    constructor
    · intro hzero
      rw [Nat.div_mul_cancel (Nat.dvd_of_mod_eq_zero hzero)]
    · intro hsame
      have hle := scaled_le_iff.mp hsame.ge
      rw [Nat.mul_comm] at hle
      omega

theorem regular_div (hu : Regular bound u x) (hv : Regular bound' v y) (hy : y ≠ 0)
    (hbound : bound + bound' + 53 ≤ 900) :
    ∃ q, Regular (bound + bound' + 53) (UnpackedFloat.div Format.binary64 u v) q
      ∧ Faithful (x / y) q := by
  cases hv with
  | zero => exact absurd rfl hy
  | @finite d e' hpos' hlow' hhigh' hmin' hmax' =>
    cases hu with
    | zero => exact ⟨0, .zero, by rw [zero_div]; exact .zero⟩
    | @finite m e hpos hlow hhigh hmin hmax =>
      have hlog : m.log2 = 52 := (Nat.log2_eq_iff hpos.ne').mpr ⟨hlow, hhigh⟩
      have hlog' : d.log2 = 52 := (Nat.log2_eq_iff hpos'.ne').mpr ⟨hlow', hhigh'⟩
      have hcore : divCore Format.binary64 m e d e'
          = (m <<< 53 / d, e - e' - 53, accuracyOfFraction (m <<< 53 % d) d) := by
        have htarget : min (e - e') (Format.binary64.targetExponent
            (totalExponent m e - totalExponent d e')) = e - e' - 53 := by
          show min (e - e') (max ((m.log2 + 1 + e : ℤ) - (d.log2 + 1 + e') - 53) (-1074)) = _
          omega
        have hshift : (e - e' - (e - e' - 53)).toNat = 53 := by omega
        unfold divCore
        rw [htarget]
        dsimp only
        rw [hshift]
      have hquotient : scaled (m <<< 53) (e - e' - 53) / d = scaled m e / scaled d e' := by
        rw [Nat.shiftLeft_eq, scaled_mul_pow, scaled, scaled, scaled]
        have hexponent : e - e' - 53 + (53 : ℕ) = e - e' := by omega
        rw [hexponent, zpow_sub₀ (by norm_num)]
        field_simp
      have hlower : 2 ^ 52 ≤ m <<< 53 / d := by
        rw [Nat.le_div_iff_mul_le hpos', Nat.shiftLeft_eq]
        omega
      have hupper : m <<< 53 / d < 2 ^ 54 := by
        rw [Nat.div_lt_iff_lt_mul hpos', Nat.shiftLeft_eq]
        omega
      have hbits : 52 ≤ (m <<< 53 / d).log2 := (Nat.le_log2 (by omega)).mpr hlower
      have hbits' : (m <<< 53 / d).log2 < 54 := (Nat.log2_lt (by omega)).mpr hupper
      have htruncates := truncates_div (m := m <<< 53) hpos' (e - e' - 53)
      rw [hquotient] at htruncates
      have hsign : (Sign.positive / Sign.positive : Sign) = .positive := rfl
      have hdiv : UnpackedFloat.div Format.binary64 (.finite .positive m e hpos)
          (.finite .positive d e' hpos') = roundWithAccuracy Format.binary64 .positive
            (m <<< 53 / d) (e - e' - 53) (accuracyOfFraction (m <<< 53 % d) d) := by
        rw [UnpackedFloat.div, hcore, hsign]
      rw [hdiv]
      exact regular_round hbound hbits htruncates (by omega) (by omega)

/-- **A division** is faithful. -/
theorem isValue_div (hf : IsValue bound f x) (hg : IsValue bound' g y) (hy : y ≠ 0)
    (hbound : bound + bound' + 53 ≤ 900) :
    ∃ q, IsValue (bound + bound' + 53) (f / g) q ∧ Faithful (x / y) q := by
  obtain ⟨q, hregular, hfaithful⟩ := regular_div hf hg hy hbound
  exact ⟨q, hregular.pack hbound, hfaithful⟩

theorem le_iff (hf : IsValue bound f x) (hg : IsValue bound' g y) : f ≤ g ↔ x ≤ y := by
  have hcompare := hf.compare hg
  show (decide ((f.toModel.unpack.compare g.toModel.unpack).any (·.isLE) = true)) = true ↔ _
  rw [hcompare, decide_eq_true_eq]
  rcases lt_trichotomy x y with hlt | rfl | hgt
  · rw [if_pos hlt]
    exact iff_of_true rfl hlt.le
  · rw [if_neg (lt_irrefl x), if_pos rfl]
    exact iff_of_true rfl le_rfl
  · rw [if_neg hgt.not_gt, if_neg hgt.ne']
    exact iff_of_false (by decide) hgt.not_ge

theorem lt_iff (hf : IsValue bound f x) (hg : IsValue bound' g y) : f < g ↔ x < y := by
  have hcompare := hf.compare hg
  show (decide ((f.toModel.unpack.compare g.toModel.unpack == some .lt) = true)) = true ↔ _
  rw [hcompare, decide_eq_true_eq]
  rcases lt_trichotomy x y with hlt | rfl | hgt
  · rw [if_pos hlt]
    exact iff_of_true rfl hlt
  · rw [if_neg (lt_irrefl x), if_pos rfl]
    exact iff_of_false (by decide) (lt_irrefl x)
  · rw [if_neg hgt.not_gt, if_neg hgt.ne']
    exact iff_of_false (by decide) hgt.not_gt

end Operations

end Ipmx.Lib.Binary64
