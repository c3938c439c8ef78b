/-
Ipmx.H264.AnnexBTheorems — Annex B byte streams and lists of NAL units.

A NAL unit in normal form (`Normal`) is not empty, holds no start code and
does not end in a zero. The parser returns nothing else, and it returns
exactly the units of any stream that separates such units by start codes and
zeros.
-/
import Ipmx.H264.AnnexB

namespace Ipmx.H264

/-! ## Definitions -/

/-- A NAL unit that a byte stream can carry: not empty, without a start code in it and without
a zero at its end. -/
structure Normal (nal : NalUnit) : Prop where
  ne_nil : nal ≠ []
  not_infix : ¬ [0, 0, 1] <:+: nal
  getLast_ne : nal.getLast? ≠ some 0

/-- A byte stream of units, each behind a number of zeros and a start code, with zeros at the
end. -/
def byteStream (units : List (Nat × NalUnit)) (trailingZeros : Nat) : Bytes :=
  units.flatMap (fun unit => List.replicate unit.1 0 ++ ([0, 0, 1] ++ unit.2))
    ++ List.replicate trailingZeros 0

/-- Bytes that start codes cannot begin in: no start code in them and no zero at their end. -/
structure Quiet (bytes : Bytes) : Prop where
  not_infix : ¬ [0, 0, 1] <:+: bytes
  getLast_ne : bytes.getLast? ≠ some 0

theorem Normal.quiet {nal : NalUnit} (h : Normal nal) : Quiet nal :=
  ⟨h.not_infix, h.getLast_ne⟩

/-! ## Searching -/

theorem Quiet.tail {byte : UInt8} {rest : Bytes} (h : Quiet (byte :: rest)) : Quiet rest := by
  constructor
  · intro hwithin
    exact h.not_infix (hwithin.trans (List.suffix_cons byte rest).isInfix)
  · intro hlast
    apply h.getLast_ne
    rw [List.getLast?_cons, hlast]
    rfl

/-- Quiet bytes are no beginning of a start code. -/
theorem Quiet.eq_nil_of_prefix {bytes : Bytes} (h : Quiet bytes)
    (hstart : bytes <+: [0, 0, 1] ∨ bytes <+: [0, 0, 0, 1]) : bytes = [] := by
  have hcases : bytes = [] ∨ bytes.getLast? = some 0 ∨ [0, 0, 1] <:+: bytes := by
    rcases hstart with hstart | hstart
    · rw [← List.mem_inits] at hstart
      simp only [List.inits, List.map_cons, List.map_nil, List.mem_cons, List.not_mem_nil,
        or_false] at hstart
      rcases hstart with rfl | rfl | rfl | rfl <;> decide
    · rw [← List.mem_inits] at hstart
      simp only [List.inits, List.map_cons, List.map_nil, List.mem_cons, List.not_mem_nil,
        or_false] at hstart
      rcases hstart with rfl | rfl | rfl | rfl | rfl <;> decide
  rcases hcases with hnil | hlast | hwithin
  · exact hnil
  · exact absurd hlast h.getLast_ne
  · exact absurd hwithin h.not_infix

/-- No start code begins in quiet bytes, whatever follows them. -/
theorem Quiet.startCodeAt {byte : UInt8} {rest : Bytes} (h : Quiet (byte :: rest))
    (tail : Bytes) : startCodeAt (byte :: rest ++ tail) = none := by
  cases hcode : H264.startCodeAt (byte :: rest ++ tail) with
  | none => rfl
  | some after =>
    exfalso
    -- The code lies inside the quiet bytes, or they are a beginning of it.
    rcases startCodeAt_eq_some hcode with hsplit | hsplit
    · rcases List.append_eq_append_iff.mp hsplit with ⟨more, hbytes, _⟩ | ⟨more, hbytes, _⟩
      · exact absurd (h.eq_nil_of_prefix (.inl ⟨more, hbytes.symm⟩)) (by simp)
      · exact h.not_infix (hbytes ▸ (List.prefix_append _ more).isInfix)
    · rcases List.append_eq_append_iff.mp hsplit with ⟨more, hbytes, _⟩ | ⟨more, hbytes, _⟩
      · exact absurd (h.eq_nil_of_prefix (.inr ⟨more, hbytes.symm⟩)) (by simp)
      · exact h.not_infix ⟨[0], more, hbytes.symm⟩

theorem findStartCode_append {bytes tail : Bytes} (h : Quiet bytes) :
    findStartCode (bytes ++ tail)
      = (findStartCode tail).map fun found => (bytes ++ found.1, found.2) := by
  induction bytes with
  | nil => simp
  | cons byte rest ih =>
    have hnone := h.startCodeAt tail
    rw [List.cons_append] at hnone ⊢
    rw [findStartCode, hnone, ih h.tail]
    simp [Option.map_map, Function.comp_def]

theorem findStartCode_zeros (count : Nat) : findStartCode (List.replicate count 0) = none := by
  cases h : findStartCode (List.replicate count 0) with
  | none => rfl
  | some found =>
    have hone : (1 : UInt8) ∈ List.replicate count 0 := by
      rcases findStartCode_eq_some h with hsplit | hsplit <;> simp [hsplit]
    exact absurd (List.eq_of_mem_replicate hone) (by decide)

/-- Of the zeros in front of a start code the last belongs to it. -/
theorem findStartCode_replicate (count : Nat) (rest : Bytes) :
    findStartCode (List.replicate count 0 ++ ([0, 0, 1] ++ rest))
      = some (List.replicate (count - 1) 0, rest) := by
  induction count with
  | zero => rfl
  | succ count ih =>
    cases count with
    | zero => rfl
    | succ count =>
      have hnone : startCodeAt (List.replicate (count + 2) 0 ++ ([0, 0, 1] ++ rest)) = none := by
        rcases count with _ | _ | count <;> rfl
      rw [List.replicate_succ, List.cons_append] at hnone ⊢
      rw [findStartCode, hnone, ih]
      rfl

theorem startCodeAt_ne_none {bytes : Bytes} (h : [0, 0, 1] <+: bytes) :
    startCodeAt bytes ≠ none := by
  rw [startCodeAt, if_pos (List.isPrefixOf_iff_prefix.mpr h)]
  simp

theorem not_infix_of_findStartCode_eq_none {bytes : Bytes} (h : findStartCode bytes = none) :
    ¬ [0, 0, 1] <:+: bytes := by
  induction bytes with
  | nil => simp
  | cons byte rest ih =>
    rw [findStartCode] at h
    split at h
    · cases h
    · rename_i hnone
      rw [List.infix_cons_iff]
      rintro (hstart | hwithin)
      · exact startCodeAt_ne_none hstart hnone
      · exact ih (Option.map_eq_none_iff.mp h) hwithin

/-- What stands in front of the first start code holds none. -/
theorem not_infix_of_findStartCode_eq_some {bytes before after : Bytes}
    (h : findStartCode bytes = some (before, after)) : ¬ [0, 0, 1] <:+: before := by
  induction bytes generalizing before with
  | nil => cases h
  | cons byte rest ih =>
    rw [findStartCode] at h
    split at h
    · cases h
      simp
    · rename_i hnone
      obtain ⟨⟨front, back⟩, hrest, heq⟩ := Option.map_eq_some_iff.mp h
      cases heq
      have hfront : byte :: front <+: byte :: rest := by
        rw [List.cons_prefix_cons]
        rcases findStartCode_eq_some hrest with hsplit | hsplit
        · exact ⟨rfl, _, hsplit.symm⟩
        · exact ⟨rfl, _, hsplit.symm⟩
      rw [List.infix_cons_iff]
      rintro (hstart | hwithin)
      · exact startCodeAt_ne_none (hstart.trans hfront) hnone
      · exact ih hrest hwithin

/-! ## Trailing zeros -/

theorem stripZeros_append {nal : NalUnit} (h : nal.getLast? ≠ some 0) (count : Nat) :
    stripZeros (nal ++ List.replicate count 0) = nal := by
  induction count with
  | zero =>
    rw [List.replicate_zero, List.append_nil, stripZeros, List.rdropWhile_eq_self_iff]
    intro hne hzero
    apply h
    rw [List.getLast?_eq_some_getLast hne]
    exact congrArg some (by simpa using hzero)
  | succ count ih =>
    rw [List.replicate_succ', ← List.append_assoc, stripZeros, List.rdropWhile_concat_pos _ _ _ rfl]
    exact ih

theorem keepNal_append {nal : NalUnit} (h : Normal nal) (count : Nat) :
    keepNal (nal ++ List.replicate count 0) = [nal] := by
  rw [keepNal, stripZeros_append h.getLast_ne, if_neg h.ne_nil]

/-- Bytes without a start code give no unit that is not in normal form. -/
theorem normal_of_mem_keepNal {bytes : Bytes} (h : ¬ [0, 0, 1] <:+: bytes) {nal : NalUnit}
    (hnal : nal ∈ keepNal bytes) : Normal nal := by
  unfold keepNal at hnal
  split at hnal
  · cases hnal
  · rename_i hne
    rw [List.mem_singleton] at hnal
    subst hnal
    refine ⟨hne, ?_, ?_⟩
    · intro hwithin
      exact h (hwithin.trans (List.rdropWhile_prefix _ _).isInfix)
    · intro hlast
      have hlast' := List.rdropWhile_last_not (· == 0) bytes hne
      rw [List.getLast?_eq_some_getLast hne] at hlast
      exact hlast' (beq_iff_eq.mpr (Option.some.inj hlast))

/-! ## Parsing -/

theorem parseNals_append {nal : NalUnit} {units : List (Nat × NalUnit)} (hnal : Normal nal)
    (hunits : ∀ unit ∈ units, Normal unit.2) (trailingZeros : Nat) :
    parseNals (nal ++ byteStream units trailingZeros) = nal :: units.map Prod.snd := by
  induction units generalizing nal with
  | nil =>
    have hfind : findStartCode (nal ++ byteStream [] trailingZeros) = none := by
      rw [findStartCode_append hnal.quiet, byteStream, List.flatMap_nil, List.nil_append,
        findStartCode_zeros]
      rfl
    rw [parseNals]
    split
    · exact keepNal_append hnal trailingZeros
    · rename_i hsome
      rw [hfind] at hsome
      cases hsome
  | cons unit units ih =>
    obtain ⟨zeros, next⟩ := unit
    have hnext : Normal next := hunits (zeros, next) (by simp)
    have hstream : byteStream ((zeros, next) :: units) trailingZeros
        = List.replicate zeros 0 ++ ([0, 0, 1] ++ (next ++ byteStream units trailingZeros)) := by
      simp [byteStream]
    have hfind : findStartCode (nal ++ byteStream ((zeros, next) :: units) trailingZeros)
        = some (nal ++ List.replicate (zeros - 1) 0, next ++ byteStream units trailingZeros) := by
      rw [findStartCode_append hnal.quiet, hstream, findStartCode_replicate]
      rfl
    have hrest := ih hnext (fun unit hmem => hunits unit (List.mem_cons_of_mem _ hmem))
    rw [parseNals]
    split
    · rename_i hnone
      rw [hfind] at hnone
      cases hnone
    · rename_i hsome
      rw [hfind] at hsome
      cases hsome
      rw [keepNal_append hnal, hrest]
      rfl

/-- The parser returns the units of every byte stream of them. -/
theorem parseAnnexB_stream {units : List (Nat × NalUnit)}
    (hunits : ∀ unit ∈ units, Normal unit.2) (trailingZeros : Nat) :
    parseAnnexB (byteStream units trailingZeros) = units.map Prod.snd := by
  cases units with
  | nil =>
    rw [parseAnnexB, byteStream, List.flatMap_nil, List.nil_append, findStartCode_zeros]
    rfl
  | cons unit units =>
    obtain ⟨zeros, nal⟩ := unit
    have hstream : byteStream ((zeros, nal) :: units) trailingZeros
        = List.replicate zeros 0 ++ ([0, 0, 1] ++ (nal ++ byteStream units trailingZeros)) := by
      simp [byteStream]
    rw [parseAnnexB, hstream, findStartCode_replicate]
    exact parseNals_append (hunits (zeros, nal) (by simp))
      (fun unit hmem => hunits unit (List.mem_cons_of_mem _ hmem)) trailingZeros

/-- `build_annex_b` writes a byte stream with one more zero in front of each start code. -/
theorem buildAnnexB_eq_byteStream (nals : List NalUnit) :
    buildAnnexB nals = byteStream (nals.map fun nal => (1, nal)) 0 := by
  simp [buildAnnexB, byteStream, List.flatMap_map]

theorem parseAnnexB_build {nals : List NalUnit} (h : ∀ nal ∈ nals, Normal nal) :
    parseAnnexB (buildAnnexB nals) = nals := by
  rw [buildAnnexB_eq_byteStream, parseAnnexB_stream]
  · simp [Function.comp_def]
  · intro unit hunit
    obtain ⟨nal, hnal, rfl⟩ := List.mem_map.mp hunit
    exact h nal hnal

theorem normal_of_mem_parseNals {bytes : Bytes} {nal : NalUnit} (h : nal ∈ parseNals bytes) :
    Normal nal := by
  induction bytes using parseNals.induct with
  | case1 bytes hnone =>
    rw [parseNals] at h
    split at h
    · exact normal_of_mem_keepNal (not_infix_of_findStartCode_eq_none hnone) h
    · rename_i hsome
      rw [hnone] at hsome
      cases hsome
  | case2 bytes front rest hsome _ ih =>
    rw [parseNals] at h
    split at h
    · rename_i hnone
      rw [hsome] at hnone
      cases hnone
    · rename_i hagain
      rw [hsome] at hagain
      cases hagain
      rcases List.mem_append.mp h with h | h
      · exact normal_of_mem_keepNal (not_infix_of_findStartCode_eq_some hsome) h
      · exact ih h

theorem normal_of_mem_parseAnnexB {bytes : Bytes} {nal : NalUnit} (h : nal ∈ parseAnnexB bytes) :
    Normal nal := by
  unfold parseAnnexB at h
  split at h
  · cases h
  · exact normal_of_mem_parseNals h

/-- Parsing and building are inverse on units in normal form, and parsing yields no others. -/
theorem parseAnnexB_normalForm :
    (∀ (units : List (Nat × NalUnit)) (trailingZeros : Nat),
        (∀ unit ∈ units, Normal unit.2) →
          parseAnnexB (byteStream units trailingZeros) = units.map Prod.snd)
      ∧ (∀ nals : List NalUnit, (∀ nal ∈ nals, Normal nal) →
          parseAnnexB (buildAnnexB nals) = nals)
      ∧ ∀ bytes : Bytes, (∀ nal ∈ parseAnnexB bytes, Normal nal)
          ∧ parseAnnexB (buildAnnexB (parseAnnexB bytes)) = parseAnnexB bytes := by
  refine ⟨?_, ?_, ?_⟩
  · intro units trailingZeros hunits
    exact parseAnnexB_stream hunits trailingZeros
  · intro nals hnals
    exact parseAnnexB_build hnals
  · intro bytes
    have hnormal : ∀ nal ∈ parseAnnexB bytes, Normal nal := by
      intro nal hnal
      exact normal_of_mem_parseAnnexB hnal
    exact ⟨hnormal, parseAnnexB_build hnormal⟩

theorem parseAnnexB_normalForm_two_units :
    parseAnnexB (byteStream [(1, [0x67, 1, 2]), (0, [0x68, 3])] 2) = [[0x67, 1, 2], [0x68, 3]]
      ∧ parseAnnexB (buildAnnexB [[0x67, 1, 2]]) = [[0x67, 1, 2]] :=
  ⟨parseAnnexB_normalForm.1 [(1, [0x67, 1, 2]), (0, [0x68, 3])] 2 (by
      intro unit hunit
      simp only [List.mem_cons, List.not_mem_nil, or_false] at hunit
      rcases hunit with rfl | rfl
      · exact ⟨by decide, by decide, by decide⟩
      · exact ⟨by decide, by decide, by decide⟩),
    parseAnnexB_normalForm.2.1 [[0x67, 1, 2]] (by
      intro nal hnal
      rw [List.mem_singleton.mp hnal]
      exact ⟨by decide, by decide, by decide⟩)⟩

end Ipmx.H264
