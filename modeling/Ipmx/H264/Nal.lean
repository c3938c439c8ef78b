/-
Ipmx.H264.Nal — NAL units and the Annex B byte stream the receiver hands to
its decoder (`annexb.hpp`, `annexb.cpp`, `h264_nal_type` of `h264.cpp`).

`std::vector<uint8_t>`, `std::span<const uint8_t>` and `std::string` are all
byte lists here.
-/
import Mathlib.Data.FinEnum

namespace Ipmx

abbrev Bytes := List UInt8

namespace H264

abbrev NalUnit := Bytes

/-- `h264_nal_type`: the low five bits of the header byte, 0 for an empty unit. -/
def h264NalType (nal : NalUnit) : UInt8 :=
  match nal with
  | [] => 0
  | header :: _ => header &&& 0x1F

/-- A NAL unit of a type an RTP payload may carry whole, 1..23. -/
def Carriable (nal : NalUnit) : Prop :=
  1 ≤ h264NalType nal ∧ h264NalType nal ≤ 23

instance (nal : NalUnit) : Decidable (Carriable nal) :=
  inferInstanceAs (Decidable (_ ∧ _))

theorem Carriable.ne_nil {nal : NalUnit} (h : Carriable nal) : nal ≠ [] := by
  rintro rfl
  exact absurd h.1 (by decide)

theorem Carriable.length_pos {nal : NalUnit} (h : Carriable nal) : 0 < nal.length :=
  List.length_pos_iff.mpr h.ne_nil

/-- `build_annex_b`: every unit behind a four-byte start code. -/
def buildAnnexB (nals : List NalUnit) : Bytes :=
  nals.flatMap fun nal => [0, 0, 0, 1] ++ nal

end H264
end Ipmx
