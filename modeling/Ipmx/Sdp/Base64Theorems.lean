/-
Ipmx.Sdp.Base64Theorems — `decode_base64` inverts `base64`.

A character of the alphabet is found where it stands (`idxOf?_alphabet`), four
of them are the 24 bits of three bytes, and the decoder is back in its first
state behind them, so the round trip is an induction over the rounds of the
encoder.
-/
import Ipmx.Lib.BigEndian
import Ipmx.Sdp.Base64

namespace Ipmx.Sdp

open Ipmx.Lib

/-- The character of a six-bit value. -/
theorem idxOf?_alphabet : ∀ i < 64, base64Alphabet.idxOf? (base64Alphabet.getD i 0) = some i
    ∧ base64Alphabet.getD i 0 ≠ asciiByte '=' := by
  decide +kernel

theorem base64Character_eq (value shift : Nat) :
    base64Character value shift = base64Alphabet.getD (value / 2 ^ shift % 64) 0 := by
  rw [base64Character, Nat.shiftRight_eq_div_pow, show (0x3F : Nat) = 2 ^ 6 - 1 from rfl,
    Nat.and_two_pow_sub_one_eq_mod]

theorem shiftLeft_or_six (a : Nat) {i : Nat} (h : i < 64) : a <<< 6 ||| i = a * 64 + i := by
  rw [← Nat.shiftLeft_add_eq_or_of_lt (by simpa using h), Nat.shiftLeft_eq]

theorem base64Value_eq (a b c : UInt8) :
    base64Value a b c = (a.toNat * 256 + b.toNat) * 256 + c.toNat := by
  have hpack : a.toNat <<< 16 ||| b.toNat <<< 8 = (a.toNat <<< 8 ||| b.toNat) <<< 8 := by
    rw [Nat.shiftLeft_or_distrib, ← Nat.shiftLeft_add]
  rw [base64Value, hpack, BigEndian.shiftLeft_or_eq _ b.toNat_lt,
    BigEndian.shiftLeft_or_eq _ c.toNat_lt]

/-- A character in front of the padding: its six bits go behind the accumulator, and a byte
comes out once there are eight. -/
theorem decodeBase64Loop_cons (accumulator bits : Nat) {i : Nat} (h : i < 64) (rest : Bytes) :
    decodeBase64Loop accumulator bits false (base64Alphabet.getD i 0 :: rest)
      = if bits ≥ 2 then
          (decodeBase64Loop ((accumulator * 64 + i) % 2 ^ (bits - 2)) (bits - 2) false rest).map
            (UInt8.ofNat ((accumulator * 64 + i) / 2 ^ (bits - 2)) :: ·)
        else
          decodeBase64Loop (accumulator * 64 + i) (bits + 6) false rest := by
  obtain ⟨hidx, hne⟩ := idxOf?_alphabet i h
  have hmask : ∀ a k : Nat, a &&& ((1 <<< k) - 1) = a % 2 ^ k := by
    intro a k
    rw [Nat.one_shiftLeft, Nat.and_two_pow_sub_one_eq_mod]
  rw [decodeBase64Loop, if_neg hne, if_neg (by simp), hidx]
  simp only [shiftLeft_or_six _ h, hmask, Nat.shiftRight_eq_div_pow]
  by_cases hbits : bits ≥ 2
  · rw [if_pos hbits, if_pos (by omega), show bits + 6 - 8 = bits - 2 by omega]
    cases decodeBase64Loop ((accumulator * 64 + i) % 2 ^ (bits - 2)) (bits - 2) false rest with
    | none => rfl
    | some output => rfl
  · rw [if_neg hbits, if_neg (by omega)]

/-- Padding behind the last character. -/
theorem decodeBase64Loop_padding (accumulator bits : Nat) (padding : Bool) (count : Nat) :
    decodeBase64Loop accumulator bits padding (List.replicate count (asciiByte '=')) = some [] := by
  induction count generalizing padding with
  | zero => rfl
  | succ count ih => rw [List.replicate_succ, decodeBase64Loop, if_pos rfl, ih]

/-! ## The bytes of a round -/

section Round

variable (a b c : UInt8) (rest : Bytes)

/-- The first two characters hold the first byte. -/
theorem decodeBase64Loop_first :
    decodeBase64Loop 0 0 false (base64Character (base64Value a b c) 18
        :: base64Character (base64Value a b c) 12 :: rest)
      = (decodeBase64Loop (b.toNat / 16) 4 false rest).map (a :: ·) := by
  have ha := a.toNat_lt
  have hb := b.toNat_lt
  have hc := c.toNat_lt
  rw [base64Character_eq, base64Character_eq, base64Value_eq,
    decodeBase64Loop_cons _ _ (Nat.mod_lt _ (by simp)), if_neg (by simp),
    decodeBase64Loop_cons _ _ (Nat.mod_lt _ (by simp)), if_pos (by simp)]
  have hrest : ((0 * 64 + ((a.toNat * 256 + b.toNat) * 256 + c.toNat) / 2 ^ 18 % 64) * 64
      + ((a.toNat * 256 + b.toNat) * 256 + c.toNat) / 2 ^ 12 % 64) % 2 ^ (0 + 6 - 2)
        = b.toNat / 16 := by omega
  have hbyte : ((0 * 64 + ((a.toNat * 256 + b.toNat) * 256 + c.toNat) / 2 ^ 18 % 64) * 64
      + ((a.toNat * 256 + b.toNat) * 256 + c.toNat) / 2 ^ 12 % 64) / 2 ^ (0 + 6 - 2)
        = a.toNat := by omega
  rw [hrest, hbyte, UInt8.ofNat_toNat]

/-- The third completes the second byte. -/
theorem decodeBase64Loop_second :
    decodeBase64Loop (b.toNat / 16) 4 false (base64Character (base64Value a b c) 6 :: rest)
      = (decodeBase64Loop (c.toNat / 64) 2 false rest).map (b :: ·) := by
  have hb := b.toNat_lt
  have hc := c.toNat_lt
  rw [base64Character_eq, base64Value_eq,
    decodeBase64Loop_cons _ _ (Nat.mod_lt _ (by simp)), if_pos (by simp)]
  have hrest : (b.toNat / 16 * 64 + ((a.toNat * 256 + b.toNat) * 256 + c.toNat) / 2 ^ 6 % 64)
      % 2 ^ (4 - 2) = c.toNat / 64 := by omega
  have hbyte : (b.toNat / 16 * 64 + ((a.toNat * 256 + b.toNat) * 256 + c.toNat) / 2 ^ 6 % 64)
      / 2 ^ (4 - 2) = b.toNat := by omega
  rw [hrest, hbyte, UInt8.ofNat_toNat]

/-- The fourth completes the third byte, and leaves nothing behind. -/
theorem decodeBase64Loop_third :
    decodeBase64Loop (c.toNat / 64) 2 false (base64Character (base64Value a b c) 0 :: rest)
      = (decodeBase64Loop 0 0 false rest).map (c :: ·) := by
  have hc := c.toNat_lt
  rw [base64Character_eq, base64Value_eq,
    decodeBase64Loop_cons _ _ (Nat.mod_lt _ (by simp)), if_pos (by simp)]
  have hrest : (c.toNat / 64 * 64 + ((a.toNat * 256 + b.toNat) * 256 + c.toNat) / 2 ^ 0 % 64)
      % 2 ^ (2 - 2) = 0 := by omega
  have hbyte : (c.toNat / 64 * 64 + ((a.toNat * 256 + b.toNat) * 256 + c.toNat) / 2 ^ 0 % 64)
      / 2 ^ (2 - 2) = c.toNat := by omega
  rw [hrest, hbyte, UInt8.ofNat_toNat]

end Round

/-! ## Round trip -/

/-- **`decode_base64` inverts `base64`.** -/
theorem decodeBase64_base64 (input : Bytes) : decodeBase64 (base64 input) = some input := by
  unfold decodeBase64
  induction input using base64.induct with
  | case1 => rfl
  | case2 a =>
    have hpadding := decodeBase64Loop_padding 0 4 false 2
    rw [base64, decodeBase64Loop_first]
    exact congrArg _ hpadding
  | case3 a b =>
    have hpadding := decodeBase64Loop_padding 0 2 false 1
    rw [base64, decodeBase64Loop_first, decodeBase64Loop_second]
    exact congrArg (fun o => (o.map (b :: ·)).map (a :: ·)) hpadding
  | case4 a b c rest ih =>
    rw [base64, decodeBase64Loop_first, decodeBase64Loop_second, decodeBase64Loop_third, ih]
    rfl

theorem base64Character_mem (value shift : Nat) :
    base64Character value shift ∈ base64Alphabet := by
  have hlength : base64Alphabet.length = 64 := by decide +kernel
  have hindex : value / 2 ^ shift % 64 < base64Alphabet.length := by
    rw [hlength]
    exact Nat.mod_lt _ (by simp)
  rw [base64Character_eq, List.getD_eq_getElem?_getD, List.getElem?_eq_getElem hindex]
  exact List.getElem_mem hindex

/-- What a base64 text is made of. -/
theorem mem_base64 {input : Bytes} {character : UInt8} (h : character ∈ base64 input) :
    character = asciiByte '=' ∨ character ∈ base64Alphabet := by
  induction input using base64.induct with
  | case1 => cases h
  | case2 a =>
    simp only [base64, List.mem_cons, List.not_mem_nil, or_false] at h
    rcases h with rfl | rfl | rfl | rfl
    · exact .inr (base64Character_mem _ _)
    · exact .inr (base64Character_mem _ _)
    · exact .inl rfl
    · exact .inl rfl
  | case3 a b =>
    simp only [base64, List.mem_cons, List.not_mem_nil, or_false] at h
    rcases h with rfl | rfl | rfl | rfl
    · exact .inr (base64Character_mem _ _)
    · exact .inr (base64Character_mem _ _)
    · exact .inr (base64Character_mem _ _)
    · exact .inl rfl
  | case4 a b c rest ih =>
    simp only [base64, List.mem_cons] at h
    rcases h with rfl | rfl | rfl | rfl | h
    · exact .inr (base64Character_mem _ _)
    · exact .inr (base64Character_mem _ _)
    · exact .inr (base64Character_mem _ _)
    · exact .inr (base64Character_mem _ _)
    · exact ih h

end Ipmx.Sdp
