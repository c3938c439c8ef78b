/-
Ipmx.Lib.SerialNumber — 16-bit serial numbers of an unbounded count.

A count `u` is carried as `UInt16.ofInt u`. Two counts have the same serial
number exactly if they are congruent modulo 65536 (`ofInt_eq_iff`), and the
signed distance of two serial numbers is the distance of the counts as long as
it fits 16 bits (`toInt_distance`).
-/
import Mathlib.Data.FinEnum

namespace Ipmx.Lib.SerialNumber

theorem toNat_ofInt (u : Int) : (UInt16.ofInt u).toNat = (u % 65536).toNat := by
  have hlt : (u % 65536).toNat < 65536 := by omega
  simp only [UInt16.ofInt, UInt16.toNat_ofNat']
  exact Nat.mod_eq_of_lt hlt

theorem ofInt_natCast (n : Nat) : UInt16.ofInt n = UInt16.ofNat n := by
  rw [← UInt16.toNat_inj, toNat_ofInt, UInt16.toNat_ofNat']
  omega

theorem ofInt_eq_iff (u v : Int) : UInt16.ofInt u = UInt16.ofInt v ↔ u % 65536 = v % 65536 := by
  rw [← UInt16.toNat_inj, toNat_ofInt, toNat_ofInt]
  omega

theorem ofInt_sub (u v : Int) : UInt16.ofInt u - UInt16.ofInt v = UInt16.ofInt (u - v) := by
  rw [Int.sub_eq_add_neg, UInt16.ofInt_add, UInt16.ofInt_neg, UInt16.sub_eq_add_neg]

theorem toInt_toInt16 (x : UInt16) : x.toInt16.toInt = (x.toNat : Int).bmod 65536 := by
  rw [Int16.toInt, UInt16.toBitVec_toInt16, BitVec.toInt_eq_toNat_bmod]
  rfl

/-- Within 32768 below and 32767 above, the signed distance is the true one. -/
theorem toInt_distance {u v : Int} (hlow : v - 32768 ≤ u) (hhigh : u ≤ v + 32767) :
    (UInt16.ofInt u - UInt16.ofInt v).toInt16.toInt = u - v := by
  rw [ofInt_sub, toInt_toInt16, toNat_ofInt, Int.bmod_def]
  omega

/-- Serial numbers of a window of 65536 counts are distinct. -/
theorem ofInt_inj_of_window {u v : Int} (hlow : v - 65536 < u) (hhigh : u < v + 65536)
    (h : UInt16.ofInt u = UInt16.ofInt v) : u = v := by
  rw [ofInt_eq_iff] at h
  omega

end Ipmx.Lib.SerialNumber
