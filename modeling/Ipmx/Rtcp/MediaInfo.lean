/-
Ipmx.Rtcp.MediaInfo — `make_ipmx_h264_media_info` of `rtcp.cpp`, with the
`base64` of that file.

`rtcp.cpp` and `sdp.cpp` each carry an encoder of their own. The one here is
written as the loop over the offsets, the one of the SDP by recursion on the
bytes left; `base64_eq` shows that they agree.
-/
import Ipmx.Rtcp.Compound
import Ipmx.Sdp.Base64Theorems

namespace Ipmx.Rtcp

open H264
open Ipmx.Lib
open Rtp

/-! ## `base64` -/

def base64Alphabet : Bytes :=
  ascii "ABCDEFGHIJKLMNOPQRSTUVWXYZabcdefghijklmnopqrstuvwxyz0123456789+/"

/-- A round of the loop: the four characters written at an offset inside the input. -/
def base64Round (input : Bytes) (offset : Nat) : Bytes :=
  let a := input.getD offset 0
  let b := if offset + 1 < input.length then input.getD (offset + 1) 0 else 0
  let c := if offset + 2 < input.length then input.getD (offset + 2) 0 else 0
  let value := a.toNat <<< 16 ||| b.toNat <<< 8 ||| c.toNat
  [base64Alphabet.getD (value >>> 18 &&& 0x3F) 0,
   base64Alphabet.getD (value >>> 12 &&& 0x3F) 0,
   if offset + 1 < input.length then base64Alphabet.getD (value >>> 6 &&& 0x3F) 0
   else asciiByte '=',
   if offset + 2 < input.length then base64Alphabet.getD (value &&& 0x3F) 0
   else asciiByte '=']

/-- `base64`: a round at the offsets `0, 3, 6, …` that lie inside the input. -/
def base64 (input : Bytes) : Bytes :=
  (List.range ((input.length + 2) / 3)).flatMap fun round => base64Round input (3 * round)

/-- Behind the first three bytes a round writes what it writes for the rest. -/
theorem base64Round_add_three (a b c : UInt8) (rest : Bytes) (offset : Nat) :
    base64Round (a :: b :: c :: rest) (offset + 3) = base64Round rest offset := by
  have hlength : ∀ k, k + 3 < (a :: b :: c :: rest).length ↔ k < rest.length := by
    intro k
    simp
  simp only [base64Round, Nat.add_right_comm offset 3, hlength, List.getD_cons_succ]

/-- The first round, and the rounds over the rest. -/
theorem base64_cons (a b c : UInt8) (rest : Bytes) :
    base64 (a :: b :: c :: rest) = base64Round (a :: b :: c :: rest) 0 ++ base64 rest := by
  have hrounds : ((a :: b :: c :: rest).length + 2) / 3 = (rest.length + 2) / 3 + 1 := by
    simp only [List.length_cons]
    omega
  rw [base64, hrounds, List.range_succ_eq_map, List.flatMap_cons, List.flatMap_map]
  simp only [Nat.mul_succ, base64Round_add_three, Nat.mul_zero]
  rfl

/-- **The two encoders agree.** The induction follows the rounds of the loop. -/
theorem base64_eq (input : Bytes) : base64 input = Sdp.base64 input := by
  induction input using Sdp.base64.induct with
  | case1 => rfl
  | case2 a =>
    simp [base64, base64Round, Sdp.base64, Sdp.base64Character, Sdp.base64Value, base64Alphabet,
      Sdp.base64Alphabet]
  | case3 a b =>
    simp [base64, base64Round, Sdp.base64, Sdp.base64Character, Sdp.base64Value, base64Alphabet,
      Sdp.base64Alphabet]
  | case4 a b c rest ih =>
    have hround : base64Round (a :: b :: c :: rest) 0
        = [Sdp.base64Character (Sdp.base64Value a b c) 18,
          Sdp.base64Character (Sdp.base64Value a b c) 12,
          Sdp.base64Character (Sdp.base64Value a b c) 6,
          Sdp.base64Character (Sdp.base64Value a b c) 0] := by
      simp [base64Round, Sdp.base64Character, Sdp.base64Value, base64Alphabet, Sdp.base64Alphabet]
    rw [base64_cons, hround, ih, Sdp.base64]
    rfl

theorem length_base64 (input : Bytes) : (base64 input).length = 4 * ((input.length + 2) / 3) := by
  have hround : ∀ offset, (base64Round input offset).length = 4 := by
    intro offset
    rfl
  simp only [base64, List.length_flatMap, hround, List.map_const', List.length_range,
    List.sum_replicate_nat, Nat.mul_comm]

/-! ## `make_ipmx_h264_media_info` -/

def makeIpmxH264MediaInfo (sps pps : NalUnit) : Except String IpmxH264MediaInfo :=
  match sps, pps with
  | spsHeader :: profile :: constraints :: level :: _, ppsHeader :: _ =>
    if spsHeader &&& 0x1F ≠ 7 ∨ ppsHeader &&& 0x1F ≠ 8 then
      .error "invalid H.264 SPS/PPS for RTCP Media Info Block"
    else
      .ok
        { profileLevelId := (profile, constraints, level)
          spropParameterSets := base64 sps ++ (ascii "," ++ base64 pps) }
  | _, _ => .error "invalid H.264 SPS/PPS for RTCP Media Info Block"

/-- What is accepted, and the block it gives. -/
theorem makeIpmxH264MediaInfo_eq_ok {sps pps : NalUnit} {info : IpmxH264MediaInfo}
    (h : makeIpmxH264MediaInfo sps pps = .ok info) :
    ∃ header profile constraints level rest,
      sps = header :: profile :: constraints :: level :: rest ∧ header &&& 0x1F = 7
        ∧ info = { profileLevelId := (profile, constraints, level)
                   spropParameterSets := base64 sps ++ (ascii "," ++ base64 pps) } := by
  unfold makeIpmxH264MediaInfo at h
  split at h
  · next header profile constraints level rest ppsHeader _ =>
    split at h
    · cases h
    · next hheaders =>
      obtain rfl := Except.ok.inj h
      have hheader : header &&& 0x1F = 7 := by
        by_contra hne
        exact hheaders (.inl hne)
      exact ⟨header, profile, constraints, level, rest, rfl, hheader, rfl⟩
  · cases h

end Ipmx.Rtcp
