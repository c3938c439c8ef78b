/-
Ipmx.H264.Rbsp — the NAL unit syntax of ITU-T H.264 7.3.1 and 7.3.2 as an
encoder, and `rbsp_from_nal` as its inverse.

The encoder follows the recommendation, not the source: a NAL unit is its
header byte and its RBSP with emulation prevention bytes put in, an RBSP of
bits ends in a one bit and zeros up to the byte boundary. The rule for an RBSP
that ends in a zero byte is left out, as no RBSP written here ends in one.
-/
import Ipmx.H264.BitReader

namespace Ipmx.H264

/-! ## Definitions -/

/-- `rbsp_trailing_bits` behind `bits`. -/
def withTrailingBits (bits : List Bool) : List Bool :=
  bits ++ true :: List.replicate (7 - bits.length % 8) false

/-- Eight bits as a byte, the first the most significant. -/
def packByte (bits : List Bool) : UInt8 :=
  UInt8.ofNat (bits.foldl (fun acc bit => 2 * acc + bit.toNat) 0)

/-- Whole bytes of bits. -/
def packBits : List Bool → Bytes
  | b7 :: b6 :: b5 :: b4 :: b3 :: b2 :: b1 :: b0 :: rest =>
    packByte [b7, b6, b5, b4, b3, b2, b1, b0] :: packBits rest
  | _ => []

/-- `emulation_prevention_three_byte` in front of every byte up to 3 that follows two zeros;
`zeros` of them are already written. -/
def insertEmulationPrevention : Nat → Bytes → Bytes
  | _, [] => []
  | zeros, byte :: rest =>
    if zeros ≥ 2 ∧ byte ≤ 0x03 then
      0x03 :: byte :: insertEmulationPrevention (if byte = 0 then 1 else 0) rest
    else
      byte :: insertEmulationPrevention (if byte = 0 then zeros + 1 else 0) rest

/-- The NAL unit of a type around an RBSP, with a clear `forbidden_zero_bit`. -/
def encodeNal (nalRefIdc : Fin 4) (nalUnitType : Fin 32) (rbsp : Bytes) : NalUnit :=
  UInt8.ofNat (32 * nalRefIdc.val + nalUnitType.val) :: insertEmulationPrevention 0 rbsp

/-! ## Bytes of bits -/

theorem bitsOf_cons (byte : UInt8) (rest : Bytes) :
    bitsOf (byte :: rest) = bitsOf [byte] ++ bitsOf rest := by
  simp [bitsOf]

theorem bitsOf_packByte (b7 b6 b5 b4 b3 b2 b1 b0 : Bool) :
    bitsOf [packByte [b7, b6, b5, b4, b3, b2, b1, b0]] = [b7, b6, b5, b4, b3, b2, b1, b0] := by
  revert b7 b6 b5 b4 b3 b2 b1 b0
  decide +kernel

theorem bitsOf_packBits {bits : List Bool} (h : bits.length % 8 = 0) :
    bitsOf (packBits bits) = bits := by
  induction bits using packBits.induct with
  | case1 b7 b6 b5 b4 b3 b2 b1 b0 rest ih =>
    have hrest : rest.length % 8 = 0 := by
      simp only [List.length_cons] at h
      omega
    rw [packBits, bitsOf_cons, bitsOf_packByte, ih hrest]
    rfl
  | case2 bits hshort =>
    -- Fewer than eight bits, so none at all.
    rcases bits with _ | ⟨b7, _ | ⟨b6, _ | ⟨b5, _ | ⟨b4, _ | ⟨b3, _ | ⟨b2, _ | ⟨b1, _ | ⟨b0, rest⟩⟩⟩⟩⟩⟩⟩⟩
    · rfl
    all_goals first
      | exact absurd rfl (hshort b7 b6 b5 b4 b3 b2 b1 b0 rest)
      | simp at h

theorem length_withTrailingBits (bits : List Bool) : (withTrailingBits bits).length % 8 = 0 := by
  simp only [withTrailingBits, List.length_append, List.length_cons, List.length_replicate]
  omega

/-! ## Emulation prevention -/

/-- Taking the emulation prevention bytes out gives back what they were put into. -/
theorem dropEmulationPrevention_insert (zeros : Nat) (rbsp : Bytes) :
    dropEmulationPrevention zeros (insertEmulationPrevention zeros rbsp) = rbsp := by
  induction rbsp generalizing zeros with
  | nil => rfl
  | cons byte rest ih =>
    rw [insertEmulationPrevention]
    split
    · rename_i h
      -- The inserted byte is dropped, and the byte behind it stands after no zeros.
      rw [dropEmulationPrevention, if_pos ⟨h.1, rfl⟩, dropEmulationPrevention,
        if_neg (by simp), ih]
    · rename_i h
      have hkeep : ¬ (zeros ≥ 2 ∧ byte = 0x03) := by
        rintro ⟨hzeros, rfl⟩
        exact h ⟨hzeros, by decide⟩
      rw [dropEmulationPrevention, if_neg hkeep, ih]

theorem header_type (nalRefIdc : Fin 4) (nalUnitType : Fin 32) :
    UInt8.ofNat (32 * nalRefIdc.val + nalUnitType.val) &&& 0x1F = UInt8.ofNat nalUnitType.val := by
  revert nalRefIdc nalUnitType
  decide +kernel

theorem header_forbidden_bit (nalRefIdc : Fin 4) (nalUnitType : Fin 32) :
    UInt8.ofNat (32 * nalRefIdc.val + nalUnitType.val) &&& 0x80 = 0 := by
  revert nalRefIdc nalUnitType
  decide +kernel

/-- `rbsp_from_nal` undoes the encoder for the type it expects. -/
theorem rbspFromNal_encodeNal (nalRefIdc : Fin 4) (nalUnitType : Fin 32) (rbsp : Bytes) :
    rbspFromNal (encodeNal nalRefIdc nalUnitType rbsp) (UInt8.ofNat nalUnitType.val)
      = some rbsp := by
  rw [encodeNal, rbspFromNal, if_neg, dropEmulationPrevention_insert]
  rintro (h | h)
  · exact h (header_type nalRefIdc nalUnitType)
  · exact h (header_forbidden_bit nalRefIdc nalUnitType)

end Ipmx.H264
