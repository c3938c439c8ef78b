/-
Ipmx.Lib.Text — text as byte strings.

`decimal` is the numeral of a natural number and `decimalValue` reads one
back; `cut` splits a text at the first separator, and a text whose front does
not hold the separator is cut where it was joined.
-/
import Mathlib.Data.FinEnum

namespace Ipmx.Lib

/-- The byte of an ASCII character. -/
def asciiByte (c : Char) : UInt8 := UInt8.ofNat c.toNat

/-- The bytes of an ASCII literal. -/
def ascii (text : String) : List UInt8 :=
  text.toList.map asciiByte

/-! ## Decimal numerals -/

/-- The decimal numeral of a number, without leading zeros. -/
def decimal (n : Nat) : List UInt8 :=
  (Nat.toDigits 10 n).map asciiByte

def isDigit (b : UInt8) : Bool := 48 ≤ b && b ≤ 57

/-- The number a string of digits denotes. -/
def decimalValue (digits : List UInt8) : Nat :=
  digits.foldl (fun value b => 10 * value + (b.toNat - 48)) 0

theorem decimal_ne_nil (n : Nat) : decimal n ≠ [] := by
  simp [decimal, Nat.toDigits_ne_nil]

/-- The digits of a numeral are the ten ASCII digits. -/
theorem isDigit_of_mem_decimal {n : Nat} {b : UInt8} (h : b ∈ decimal n) : isDigit b = true := by
  obtain ⟨c, hc, rfl⟩ := List.mem_map.mp h
  have hdigit := Nat.isDigit_of_mem_toDigits (by simp) (by simp) hc
  obtain ⟨hlow, hhigh⟩ : 48 ≤ c.toNat ∧ c.toNat ≤ 57 :=
    Char.isDigit_iff_toNat.mp hdigit
  simp only [isDigit, asciiByte, Bool.and_eq_true, decide_eq_true_eq, UInt8.le_iff_toNat_le,
    UInt8.toNat_ofNat']
  constructor
  · show 48 ≤ c.toNat % 256
    omega
  · show c.toNat % 256 ≤ 57
    omega

/-- **A numeral denotes its number.** -/
theorem decimalValue_decimal (n : Nat) : decimalValue (decimal n) = n := by
  have hdigit : ∀ c ∈ Nat.toDigits 10 n, (asciiByte c).toNat = c.toNat := by
    intro c hc
    obtain ⟨_, hhigh⟩ : 48 ≤ c.toNat ∧ c.toNat ≤ 57 := Char.isDigit_iff_toNat.mp
      (Nat.isDigit_of_mem_toDigits (by simp) (by simp) hc)
    simp only [asciiByte, UInt8.toNat_ofNat']
    omega
  have hfold : ∀ (digits : List Char) (value : Nat),
      (∀ c ∈ digits, (asciiByte c).toNat = c.toNat) →
      (digits.map asciiByte).foldl (fun value b => 10 * value + (b.toNat - 48)) value
        = Nat.ofDigitChars 10 digits value := by
    intro digits
    induction digits with
    | nil => intro value _; simp
    | cons c digits ih =>
      intro value h
      rw [List.map_cons, List.foldl_cons, h c List.mem_cons_self, Nat.ofDigitChars_cons]
      exact ih _ fun c' hc' => h c' (List.mem_cons_of_mem _ hc')
  rw [decimalValue, decimal, hfold _ 0 hdigit, Nat.ofDigitChars_ten_toDigits]

/-! ## Cutting at a separator -/

variable {α : Type} [DecidableEq α]

/-- The text in front of the first separator, and the text behind it if there is one. -/
def cut (separator : α) : List α → List α × Option (List α)
  | [] => ([], none)
  | b :: rest =>
    if b = separator then ([], some rest)
    else (b :: (cut separator rest).1, (cut separator rest).2)

theorem cut_append {separator : α} {front : List α} (h : separator ∉ front) (back : List α) :
    cut separator (front ++ separator :: back) = (front, some back) := by
  induction front with
  | nil => simp [cut]
  | cons b front ih =>
    simp only [List.mem_cons, not_or] at h
    rw [List.cons_append, cut, if_neg (Ne.symm h.1), ih h.2]

theorem cut_of_not_mem {separator : α} {text : List α} (h : separator ∉ text) :
    cut separator text = (text, none) := by
  induction text with
  | nil => rfl
  | cons b text ih =>
    simp only [List.mem_cons, not_or] at h
    rw [cut, if_neg (Ne.symm h.1), ih h.2]

/-- What a joined text holds, the separator or one of the parts holds. -/
theorem mem_of_mem_intercalate {α : Type} {separator : List α} {parts : List (List α)} {x : α}
    (h : x ∈ separator.intercalate parts) : x ∈ separator ∨ ∃ part ∈ parts, x ∈ part := by
  induction parts with
  | nil => cases h
  | cons part parts ih =>
    by_cases hparts : parts = []
    · subst hparts
      rw [List.intercalate_singleton] at h
      exact .inr ⟨part, List.mem_cons_self, h⟩
    · rw [List.intercalate_cons_of_ne_nil hparts, List.append_assoc] at h
      rcases List.mem_append.mp h with h | h
      · exact .inr ⟨part, List.mem_cons_self, h⟩
      rcases List.mem_append.mp h with h | h
      · exact .inl h
      · rcases ih h with h | ⟨other, hmem, hother⟩
        · exact .inl h
        · exact .inr ⟨other, List.mem_cons_of_mem _ hmem, hother⟩

/-! ## Permutations of an image -/

/-- A permutation of an image is the image of a permutation. -/
theorem perm_map_exists {α β : Type} {f : α → β} {xs : List α} {ys : List β}
    (h : ys.Perm (xs.map f)) : ∃ xs' : List α, xs'.Perm xs ∧ ys = xs'.map f := by
  generalize hzs : xs.map f = zs at h
  induction h generalizing xs with
  | nil => exact ⟨xs, .refl _, hzs.symm⟩
  | @cons y ys zs _ ih =>
    obtain ⟨x, xs, rfl, rfl, htail⟩ := List.map_eq_cons_iff.mp hzs
    obtain ⟨xs', hperm, rfl⟩ := ih htail
    exact ⟨x :: xs', hperm.cons x, rfl⟩
  | swap y z ys =>
    obtain ⟨a, xs, rfl, rfl, htail⟩ := List.map_eq_cons_iff.mp hzs
    obtain ⟨b, xs, rfl, rfl, rfl⟩ := List.map_eq_cons_iff.mp htail
    exact ⟨b :: a :: xs, .swap _ _ _, rfl⟩
  | trans _ _ ih₁ ih₂ =>
    obtain ⟨xs', hperm, rfl⟩ := ih₂ hzs
    obtain ⟨xs'', hperm', rfl⟩ := ih₁ rfl
    exact ⟨xs'', hperm'.trans hperm, rfl⟩

end Ipmx.Lib
