/-
Ipmx.Sdp.TextTheorems — what the SDP writer writes, the text helpers read back.

`Plain` text has no blank, no line ending and no semicolon: numerals, base64
and hexadecimal digits are plain, and a plain text goes through `trim` and
`parse_fmtp` unchanged.
-/
import Ipmx.Sdp.Base64Theorems
import Ipmx.Sdp.ReadSdp

namespace Ipmx.Sdp

open H264
open Ipmx.Lib

/-! ## Plain text -/

/-- The bytes that end a value somewhere: blanks, line endings and the semicolon. -/
def separators : Bytes :=
  [asciiByte ' ', asciiByte '\t', asciiByte '\r', asciiByte '\n', asciiByte ';']

/-- The bytes that stand between numbers and in front of values. -/
def joints : Bytes :=
  [asciiByte '/', asciiByte '-', asciiByte ',', asciiByte '+', asciiByte '=']

def Plain (text : Bytes) : Prop := ∀ b ∈ text, b ∉ separators

instance (text : Bytes) : Decidable (Plain text) :=
  decidable_of_iff (text.all fun b => ! separators.contains b) (by simp [Plain])

theorem Plain.append {front back : Bytes} (hfront : Plain front) (hback : Plain back) :
    Plain (front ++ back) := by
  intro b hb
  rcases List.mem_append.mp hb with hb | hb
  · exact hfront b hb
  · exact hback b hb

/-- Two plain texts around a plain byte. -/
theorem plain_joined {front back : Bytes} (hfront : Plain front) (hback : Plain back) {b : UInt8}
    (hb : Plain [b]) : Plain (front ++ b :: back) := hfront.append (hb.append hback)

theorem Plain.not_mem {text : Bytes} (h : Plain text) {b : UInt8} (hb : b ∈ separators) :
    b ∉ text := fun hmem => h b hmem hb

/-- No separator and no joint is a digit. -/
theorem isDigit_eq_false : ∀ b ∈ separators ++ joints, isDigit b = false := by
  decide +kernel

theorem plain_decimal (n : Nat) : Plain (decimal n) := by
  intro b hb hmem
  have hdigit := isDigit_of_mem_decimal hb
  rw [isDigit_eq_false b (List.mem_append_left _ hmem)] at hdigit
  cases hdigit

theorem not_mem_decimal (n : Nat) {b : UInt8} (h : b ∈ joints) : b ∉ decimal n := by
  intro hb
  have hdigit := isDigit_of_mem_decimal hb
  rw [isDigit_eq_false b (List.mem_append_right _ h)] at hdigit
  cases hdigit

theorem plain_base64 (input : Bytes) : Plain (base64 input) := by
  have halphabet : Plain base64Alphabet := by decide
  intro b hb
  rcases mem_base64 hb with rfl | hb
  · decide
  · exact halphabet b hb

theorem comma_not_mem_base64 (input : Bytes) : asciiByte ',' ∉ base64 input := by
  intro hb
  rcases mem_base64 hb with h | h
  · revert h
    decide
  · revert h
    decide

theorem hexDigit_not_mem : ∀ value : Fin 16, hexDigit (UInt8.ofNat value) ∉ separators := by
  decide

theorem plain_hexByte (b : UInt8) : Plain (hexByte b) := by
  have hdigit : ∀ value : UInt8, value.toNat < 16 → hexDigit value ∉ separators := by
    intro value hvalue
    have hmem := hexDigit_not_mem ⟨value.toNat, hvalue⟩
    rwa [UInt8.ofNat_toNat] at hmem
  have hhigh : (b >>> 4).toNat < 16 := by
    rw [UInt8.toNat_shiftRight]
    have hb := b.toNat_lt
    simp [Nat.shiftRight_eq_div_pow]
    omega
  have hlow : (b &&& 0x0F).toNat < 16 := by
    rw [UInt8.toNat_and]
    exact Nat.lt_succ_of_le Nat.and_le_right
  intro c hc
  rcases List.mem_pair.mp hc with rfl | rfl
  · exact hdigit _ hhigh
  · exact hdigit _ hlow

theorem plain_profileLevelId {sps : NalUnit} {profile : Bytes}
    (h : profileLevelId sps = .ok profile) : Plain profile := by
  unfold profileLevelId at h
  split at h
  · split at h
    · cases h
    · obtain rfl := Except.ok.inj h
      exact ((plain_hexByte _).append (plain_hexByte _)).append (plain_hexByte _)
  · cases h

/-! ## Numbers -/

theorem parseInteger_decimal {maximum n : Nat} (h : n ≤ maximum) (field : String) :
    parseInteger maximum (decimal n) field = .ok n := by
  have hdigits : (decimal n).all isDigit = true :=
    List.all_eq_true.mpr fun _ hb => isDigit_of_mem_decimal hb
  rw [parseInteger, decimalValue_decimal, if_neg]
  simp only [hdigits, decimal_ne_nil, not_true_eq_false, false_or]
  omega

theorem parseUInt8_decimal (v : UInt8) (field : String) :
    parseUInt8 (decimal v.toNat) field = .ok v := by
  have hv : v.toNat ≤ 255 := Nat.le_of_lt_succ v.toNat_lt
  rw [parseUInt8, parseInteger_decimal hv]
  simp [Functor.map, Except.map]

theorem parseUInt16_decimal (v : UInt16) (field : String) :
    parseUInt16 (decimal v.toNat) field = .ok v := by
  have hv : v.toNat ≤ 65535 := Nat.le_of_lt_succ v.toNat_lt
  rw [parseUInt16, parseInteger_decimal hv]
  simp [Functor.map, Except.map]

theorem parseUInt32_decimal (v : UInt32) (field : String) :
    parseUInt32 (decimal v.toNat) field = .ok v := by
  have hv : v.toNat ≤ 4294967295 := Nat.le_of_lt_succ v.toNat_lt
  rw [parseUInt32, parseInteger_decimal hv]
  simp [Functor.map, Except.map]

/-! ## The stream of the media line -/

/-- What stands in front of a boundary is taken, what stands behind it is left. -/
theorem takeWhile_boundary {p : UInt8 → Bool} {body rest : Bytes}
    (hbody : ∀ b ∈ body, p b = true) (hrest : ∀ b ∈ rest.head?, p b = false) :
    (body ++ rest).takeWhile p = body ∧ (body ++ rest).dropWhile p = rest := by
  rw [List.takeWhile_append_of_pos hbody, List.dropWhile_append_of_pos hbody]
  cases rest with
  | nil => simp
  | cons b rest => simp [hrest b rfl]

/-- The first digit of a numeral. -/
theorem decimal_head (n : Nat) (rest : Bytes) :
    ∃ b tail, decimal n ++ rest = b :: tail ∧ isDigit b = true := by
  cases h : decimal n with
  | nil => exact absurd h (decimal_ne_nil n)
  | cons b digits =>
    exact ⟨b, digits ++ rest, rfl, isDigit_of_mem_decimal (h ▸ List.mem_cons_self)⟩

/-- A space ends a numeral and a word. -/
theorem boundary_of_space (rest : Bytes) :
    (∀ b ∈ (asciiByte ' ' :: rest).head?, isDigit b = false)
      ∧ ∀ b ∈ (asciiByte ' ' :: rest).head?, isSpace b = true := by
  have hspace : isDigit (asciiByte ' ') = false ∧ isSpace (asciiByte ' ') = true := by decide
  simpa using hspace

/-- A numeral behind white space, in front of something that is no digit. -/
theorem extractUnsigned_decimal {n : Nat} (hn : n < 2 ^ 32) {blank rest : Bytes}
    (hblank : ∀ b ∈ blank, isSpace b = true) (hrest : ∀ b ∈ rest.head?, isDigit b = false) :
    extractUnsigned (blank ++ (decimal n ++ rest)) = some (n, rest) := by
  obtain ⟨b, tail, hstream, hb⟩ := decimal_head n rest
  have hsigns : ∀ b : UInt8, isDigit b = true →
      isSpace b = false ∧ b ≠ asciiByte '-' ∧ b ≠ asciiByte '+' := by
    decide +kernel
  obtain ⟨hspace, hminus, hplus⟩ := hsigns b hb
  have hskip : (blank ++ (decimal n ++ rest)).dropWhile isSpace = decimal n ++ rest := by
    refine (takeWhile_boundary hblank ?_).2
    rw [hstream]
    intro c hc
    exact Option.some.inj hc ▸ hspace
  have hhead : (decimal n ++ rest).head? = some b := by rw [hstream]; rfl
  obtain ⟨htake, hdrop⟩ : (decimal n ++ rest).takeWhile isDigit = decimal n
      ∧ (decimal n ++ rest).dropWhile isDigit = rest :=
    takeWhile_boundary (fun _ hb => isDigit_of_mem_decimal hb) hrest
  simp only [extractUnsigned, hskip, hhead, Option.some.injEq, hminus, hplus, or_self,
    if_false, htake, hdrop, decimal_ne_nil, decimalValue_decimal, false_or]
  rw [if_neg (by omega)]

/-- A word behind a space, in front of another one. -/
theorem extractString_word {word rest : Bytes} (hne : word ≠ [])
    (hword : ∀ b ∈ word, isSpace b = false) (hrest : ∀ b ∈ rest.head?, isSpace b = true) :
    extractString (asciiByte ' ' :: (word ++ rest)) = some (word, rest) := by
  have hskip : (asciiByte ' ' :: (word ++ rest)).dropWhile isSpace = word ++ rest := by
    cases word with
    | nil => exact absurd rfl hne
    | cons b word =>
      rw [List.dropWhile_cons_of_pos (by decide), List.cons_append,
        List.dropWhile_cons_of_neg (by simp [hword b List.mem_cons_self])]
  obtain ⟨htake, hdrop⟩ : (word ++ rest).takeWhile (! isSpace ·) = word
      ∧ (word ++ rest).dropWhile (! isSpace ·) = rest :=
    takeWhile_boundary (fun b hb => by simp [hword b hb]) (fun b hb => by simp [hrest b hb])
  have hnonempty : word ++ rest ≠ [] := by simp [hne]
  simp only [extractString, hskip, hnonempty, if_false, htake, hdrop]

/-! ## `trim` and `parse_fmtp` -/

theorem trim_of_plain {text : Bytes} (h : Plain text) : trim text = text := by
  have hblank : ∀ b : UInt8, isBlank b = true → b ∈ separators := by decide +kernel
  have hdrop : ∀ t : Bytes, Plain t → t.dropWhile isBlank = t := by
    intro t ht
    cases t with
    | nil => rfl
    | cons b t =>
      refine List.dropWhile_cons_of_neg ?_
      intro hb
      exact ht b List.mem_cons_self (hblank b hb)
  rw [trim, hdrop text h, hdrop text.reverse fun b hb => h b (List.mem_reverse.mp hb),
    List.reverse_reverse]

/-- A parameter as it is written: a name, and a value behind an equals sign if it has one. -/
def fmtpParameter (parameter : Bytes × Option Bytes) : Bytes :=
  match parameter.2 with
  | none => parameter.1
  | some value => parameter.1 ++ asciiByte '=' :: value

/-- What becomes of it. -/
def fmtpPair (parameter : Bytes × Option Bytes) : Bytes × Bytes :=
  (lowercase parameter.1, parameter.2.getD [])

/-- A name that parameters may have. -/
def FmtpName (name : Bytes) : Prop := name ≠ [] ∧ Plain name ∧ asciiByte '=' ∉ name

instance (name : Bytes) : Decidable (FmtpName name) :=
  inferInstanceAs (Decidable (_ ∧ _ ∧ _))

/-- A name, and a plain value if there is one. -/
def FmtpReadable (parameter : Bytes × Option Bytes) : Prop :=
  FmtpName parameter.1 ∧ ∀ value ∈ parameter.2, Plain value

theorem FmtpReadable.plain {parameter : Bytes × Option Bytes} (h : FmtpReadable parameter) :
    Plain (fmtpParameter parameter) := by
  obtain ⟨name, value⟩ := parameter
  cases value with
  | none => exact h.1.2.1
  | some value => exact plain_joined h.1.2.1 (h.2 value rfl) (by decide)

/-- The token of a parameter. -/
theorem parseFmtpToken_parameter {parameter : Bytes × Option Bytes} (h : FmtpReadable parameter)
    (values : FmtpValues) :
    parseFmtpToken values (fmtpParameter parameter) = fmtpPair parameter :: values := by
  have htrim := trim_of_plain h.plain
  obtain ⟨name, value⟩ := parameter
  obtain ⟨⟨hne, hname, hequals⟩, hvalue⟩ := h
  cases value with
  | none =>
    simp only [fmtpParameter] at htrim ⊢
    simp only [parseFmtpToken, htrim, if_neg hne, cut_of_not_mem hequals]
    rfl
  | some value =>
    simp only [fmtpParameter] at htrim ⊢
    simp only [parseFmtpToken, htrim, cut_append hequals, trim_of_plain hname,
      trim_of_plain (hvalue value rfl)]
    rw [if_neg (by simp)]
    rfl

/-- **`parse_fmtp` takes a parameter list apart into its parameters.** -/
theorem parseFmtp_parameters {parameters : List (Bytes × Option Bytes)} (hne : parameters ≠ [])
    (h : ∀ parameter ∈ parameters, FmtpReadable parameter) :
    parseFmtp ((ascii ";").intercalate (parameters.map fmtpParameter))
      = (parameters.map fmtpPair).reverse := by
  have hfold : ∀ values : FmtpValues, (parameters.map fmtpParameter).foldl parseFmtpToken values
      = (parameters.map fmtpPair).reverse ++ values := by
    clear hne
    induction parameters with
    | nil => intro values; rfl
    | cons parameter parameters ih =>
      intro values
      rw [List.map_cons, List.foldl_cons, parseFmtpToken_parameter (h _ List.mem_cons_self),
        ih fun p hp => h p (List.mem_cons_of_mem _ hp)]
      simp
  have hsplit : ([asciiByte ';'].intercalate (parameters.map fmtpParameter)).splitOn
      (asciiByte ';') = parameters.map fmtpParameter := by
    refine List.splitOn_intercalate (asciiByte ';') ?_ (by simpa using hne)
    intro token htoken
    obtain ⟨parameter, hmem, rfl⟩ := List.mem_map.mp htoken
    exact (h parameter hmem).plain.not_mem (by decide)
  rw [parseFmtp]
  show (([asciiByte ';'].intercalate (parameters.map fmtpParameter)).splitOn
    (asciiByte ';')).foldl parseFmtpToken [] = _
  rw [hsplit, hfold, List.append_nil]

end Ipmx.Sdp
