/-
Ipmx.Lib.ByteOrder — little-endian numerals, and readers of both byte orders.

`LittleEndian.encode n v` is the `n`-byte numeral of `v` with its least
significant byte first, the counterpart of `BigEndian.encode`. `readLittle` and
`readBig` read a numeral off the front of a byte string.
-/
import Ipmx.Lib.BigEndian
import Ipmx.Lib.Reads

namespace Ipmx.Lib

namespace LittleEndian

/-- The `n` low bytes of `v`, least significant first. -/
def encode : Nat → Nat → List UInt8
  | 0, _ => []
  | n + 1, v => UInt8.ofNat v :: encode n (v / 256)

/-- The number a little-endian byte string denotes. -/
def decode : List UInt8 → Nat
  | [] => 0
  | byte :: bytes => byte.toNat + 256 * decode bytes

@[simp] theorem length_encode (n v : Nat) : (encode n v).length = n := by
  induction n generalizing v with
  | zero => rfl
  | succ n ih => simp [encode, ih]

theorem decode_encode (n v : Nat) : decode (encode n v) = v % 256 ^ n := by
  induction n generalizing v with
  | zero => simp [encode, decode, Nat.mod_one]
  | succ n ih =>
    have hbyte : (UInt8.ofNat v).toNat = v % 256 := by
      simp
    rw [encode, decode, ih, hbyte, Nat.pow_succ, Nat.mul_comm (256 ^ n) 256, Nat.mod_mul]

end LittleEndian

/-- A little-endian number of `n` bytes. -/
def readLittle (n : Nat) : StateT (List UInt8) Option Nat := LittleEndian.decode <$> takeSymbols n

/-- A big-endian number of `n` bytes. -/
def readBig (n : Nat) : StateT (List UInt8) Option Nat := BigEndian.decode <$> takeSymbols n

theorem reads_little {n v : Nat} (h : v < 256 ^ n) :
    Reads (readLittle n) (LittleEndian.encode n v) v := by
  have htake := (reads_take (LittleEndian.length_encode n v)).map LittleEndian.decode
  rwa [LittleEndian.decode_encode, Nat.mod_eq_of_lt h] at htake

theorem reads_big {n v : Nat} (h : v < 256 ^ n) :
    Reads (readBig n) (BigEndian.encode n v) v := by
  have htake := (reads_take (BigEndian.length_encode n v)).map BigEndian.decode
  rwa [BigEndian.decode_encode_of_lt h] at htake

end Ipmx.Lib
