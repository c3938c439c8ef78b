/-
Ipmx.Lib.BigEndian — big-endian byte strings of a fixed width.

`encode n v` is the `n`-byte network-order numeral of `v` and `decode` reads
one back. `decode_encode` is the round trip, `v` modulo `256 ^ n`, and
`shiftLeft_or_eq` turns the usual shift-and-or step of a byte reader into
arithmetic. Nothing here names a protocol: the RTP, RTCP and PCAP writers of
this project state their fields as `encode` of a width and read them with
`decode`.
-/
import Mathlib.Data.FinEnum
import Mathlib.Tactic.Ring
import Mathlib.Tactic.Linarith

namespace Ipmx.Lib.BigEndian

/-- The `n` low bytes of `v`, most significant first. -/
def encode : Nat → Nat → List UInt8
  | 0, _ => []
  | n + 1, v => UInt8.ofNat (v / 256 ^ n) :: encode n v

/-- The number a big-endian byte string denotes. -/
def decode (bytes : List UInt8) : Nat :=
  bytes.foldl (fun acc b => acc * 256 + b.toNat) 0

@[simp] theorem length_encode (n v : Nat) : (encode n v).length = n := by
  induction n with
  | zero => rfl
  | succ n ih => simp [encode, ih]

/-- Reading on from an accumulator shifts it by the width read. -/
theorem foldl_encode (n v acc : Nat) :
    (encode n v).foldl (fun acc b => acc * 256 + b.toNat) acc
      = acc * 256 ^ n + v % 256 ^ n := by
  induction n generalizing acc with
  | zero => simp [encode, Nat.mod_one]
  | succ n ih =>
    rw [encode, List.foldl_cons, ih]
    have hb : (UInt8.ofNat (v / 256 ^ n)).toNat = v / 256 ^ n % 256 := by simp
    have hm : v % 256 ^ (n + 1) = v % 256 ^ n + 256 ^ n * (v / 256 ^ n % 256) :=
      Nat.mod_pow_succ
    rw [hb, hm, pow_succ]
    ring

theorem decode_encode (n v : Nat) : decode (encode n v) = v % 256 ^ n := by
  rw [decode, foldl_encode]
  simp

/-- A value that fits its width is read back unchanged. -/
theorem decode_encode_of_lt {n v : Nat} (h : v < 256 ^ n) : decode (encode n v) = v := by
  rw [decode_encode, Nat.mod_eq_of_lt h]

theorem foldl_eq_add (bytes : List UInt8) (acc : Nat) :
    bytes.foldl (fun acc b => acc * 256 + b.toNat) acc
      = acc * 256 ^ bytes.length + decode bytes := by
  induction bytes generalizing acc with
  | nil => simp [decode]
  | cons b bytes ih =>
    have hdecode : decode (b :: bytes) = b.toNat * 256 ^ bytes.length + decode bytes := by
      rw [decode, List.foldl_cons, ih]
      simp
    rw [List.foldl_cons, ih, hdecode, List.length_cons, pow_succ]
    ring

theorem decode_cons (b : UInt8) (bytes : List UInt8) :
    decode (b :: bytes) = b.toNat * 256 ^ bytes.length + decode bytes := by
  rw [decode, List.foldl_cons, foldl_eq_add]
  simp

theorem decode_lt (bytes : List UInt8) : decode bytes < 256 ^ bytes.length := by
  induction bytes with
  | nil => simp [decode]
  | cons b bytes ih =>
    have hb : b.toNat < 256 := b.toNat_lt
    rw [decode_cons, List.length_cons, pow_succ]
    nlinarith

/-- What stands above the width is not written. -/
theorem encode_add_mul (n v k : Nat) : encode n (k * 256 ^ n + v) = encode n v := by
  induction n generalizing k with
  | zero => rfl
  | succ n ih =>
    have hpow : k * 256 ^ (n + 1) + v = k * 256 * 256 ^ n + v := by
      rw [pow_succ]
      ring
    have hdiv : (k * 256 * 256 ^ n + v) / 256 ^ n = k * 256 + v / 256 ^ n := by
      rw [Nat.add_comm, Nat.add_mul_div_right _ _ (by positivity), Nat.add_comm]
    rw [hpow, encode, encode, ih, hdiv]
    congr 1
    rw [← UInt8.toNat_inj, UInt8.toNat_ofNat', UInt8.toNat_ofNat']
    omega

/-- A byte string is the numeral of the number it denotes. -/
theorem encode_decode (bytes : List UInt8) : encode bytes.length (decode bytes) = bytes := by
  induction bytes with
  | nil => rfl
  | cons b bytes ih =>
    have hlt := decode_lt bytes
    have hdiv : (b.toNat * 256 ^ bytes.length + decode bytes) / 256 ^ bytes.length = b.toNat := by
      rw [Nat.add_comm, Nat.add_mul_div_right _ _ (by positivity), Nat.div_eq_of_lt hlt]
      simp
    rw [List.length_cons, encode, decode_cons, encode_add_mul, ih, hdiv, UInt8.ofNat_toNat]

/-! ## Fields of a packet -/

/-- The bytes of a field. -/
def slice (packet : List UInt8) (offset size : Nat) : List UInt8 := (packet.drop offset).take size

/-- The number in a field. -/
def numberAt (packet : List UInt8) (offset size : Nat) : Nat := decode (slice packet offset size)

/-- A field is found behind what stands in front of it. The offset and the size are hypotheses,
so that they can be literals. -/
theorem slice_append {packet front value rest : List UInt8} {offset size : Nat}
    (hpacket : packet = front ++ (value ++ rest)) (hoffset : front.length = offset)
    (hsize : value.length = size) : slice packet offset size = value := by
  rw [slice, hpacket, List.drop_left' hoffset, List.take_left' hsize]

theorem numberAt_append {packet front rest : List UInt8} {offset size value : Nat}
    (hpacket : packet = front ++ (encode size value ++ rest)) (hoffset : front.length = offset)
    (hvalue : value < 256 ^ size) : numberAt packet offset size = value := by
  rw [numberAt, slice_append hpacket hoffset (length_encode size value),
    decode_encode_of_lt hvalue]

/-- The step of a byte reader: shifting a byte in is multiplying and adding. -/
theorem shiftLeft_or_eq (a : Nat) {b : Nat} (h : b < 256) : a <<< 8 ||| b = a * 256 + b := by
  rw [← Nat.shiftLeft_add_eq_or_of_lt (i := 8) (by simpa using h), Nat.shiftLeft_eq]

/-- Four bytes shifted into place at once, as a 32-bit reader does. -/
theorem shiftLeft_or_eq_four {a b c d : Nat} (hb : b < 256) (hc : c < 256) (hd : d < 256) :
    a <<< 24 ||| b <<< 16 ||| c <<< 8 ||| d = ((a * 256 + b) * 256 + c) * 256 + d := by
  have h1 : a <<< 24 ||| b <<< 16 = (a <<< 8 ||| b) <<< 16 := by
    rw [Nat.shiftLeft_or_distrib, ← Nat.shiftLeft_add]
  have h2 : (a <<< 8 ||| b) <<< 16 ||| c <<< 8 = ((a <<< 8 ||| b) <<< 8 ||| c) <<< 8 := by
    rw [Nat.shiftLeft_or_distrib (b := c), ← Nat.shiftLeft_add]
  rw [h1, h2, shiftLeft_or_eq _ hb, shiftLeft_or_eq _ hc, shiftLeft_or_eq _ hd]

end Ipmx.Lib.BigEndian
