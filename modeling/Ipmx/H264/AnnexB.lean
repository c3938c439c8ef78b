/-
Ipmx.H264.AnnexB — `find_start_code` and `parse_annex_b` of `annexb.cpp`.

The source works with offsets into the bytes; here a search splits them into
what stands in front of the start code and what stands behind it.
`build_annex_b` is in `Ipmx.H264.Nal`.
-/
import Ipmx.H264.Nal
import Mathlib.Data.List.DropRight

namespace Ipmx.H264

/-- What stands behind a start code of three or four bytes at the front of `bytes`. -/
def startCodeAt (bytes : Bytes) : Option Bytes :=
  if [0, 0, 1].isPrefixOf bytes then some (bytes.drop 3)
  else if [0, 0, 0, 1].isPrefixOf bytes then some (bytes.drop 4)
  else none

/-- `find_start_code`: the bytes in front of the first start code and those behind it. -/
def findStartCode : Bytes → Option (Bytes × Bytes)
  | [] => none
  | byte :: rest =>
    match startCodeAt (byte :: rest) with
    | some after => some ([], after)
    | none => (findStartCode rest).map fun found => (byte :: found.1, found.2)

/-- The loop that moves `nal_end` in front of trailing zeros. -/
def stripZeros (bytes : Bytes) : NalUnit := bytes.rdropWhile (· == 0)

/-- A NAL unit is kept unless it is empty. -/
def keepNal (bytes : Bytes) : List NalUnit :=
  if stripZeros bytes = [] then [] else [stripZeros bytes]

theorem startCodeAt_eq_some {bytes after : Bytes} (h : startCodeAt bytes = some after) :
    bytes = [0, 0, 1] ++ after ∨ bytes = [0, 0, 0, 1] ++ after := by
  unfold startCodeAt at h
  split at h
  · rename_i hstart
    obtain ⟨rest, rfl⟩ := List.isPrefixOf_iff_prefix.mp hstart
    cases h
    exact .inl rfl
  · split at h
    · rename_i hstart
      obtain ⟨rest, rfl⟩ := List.isPrefixOf_iff_prefix.mp hstart
      cases h
      exact .inr rfl
    · cases h

/-- A search splits the bytes around a start code. -/
theorem findStartCode_eq_some {bytes before after : Bytes}
    (h : findStartCode bytes = some (before, after)) :
    bytes = before ++ ([0, 0, 1] ++ after) ∨ bytes = before ++ ([0, 0, 0, 1] ++ after) := by
  induction bytes generalizing before with
  | nil => cases h
  | cons byte rest ih =>
    rw [findStartCode] at h
    split at h
    · rename_i hcode
      cases h
      exact startCodeAt_eq_some hcode
    · obtain ⟨⟨front, back⟩, hrest, heq⟩ := Option.map_eq_some_iff.mp h
      cases heq
      rcases ih hrest with hsplit | hsplit
      · exact .inl (congrArg (byte :: ·) hsplit)
      · exact .inr (congrArg (byte :: ·) hsplit)

theorem length_lt_of_findStartCode {bytes before after : Bytes}
    (h : findStartCode bytes = some (before, after)) : after.length < bytes.length := by
  rcases findStartCode_eq_some h with rfl | rfl
  · simp only [List.length_append, List.length_cons]
    omega
  · simp only [List.length_append, List.length_cons]
    omega

/-- The loop of `parse_annex_b`, behind a start code. -/
def parseNals (bytes : Bytes) : List NalUnit :=
  match h : findStartCode bytes with
  | none => keepNal bytes
  | some (nal, rest) =>
    have := length_lt_of_findStartCode h
    keepNal nal ++ parseNals rest
termination_by bytes.length

def parseAnnexB (bytes : Bytes) : List NalUnit :=
  match findStartCode bytes with
  | none => []
  | some (_, rest) => parseNals rest

end Ipmx.H264
