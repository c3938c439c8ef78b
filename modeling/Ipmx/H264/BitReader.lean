/-
Ipmx.H264.BitReader — `rbsp_from_nal`, `BitReader` and `skip_scaling_list` of
`h264.cpp`.

A reader is the list of the bits it has not read yet, most significant bit of
each byte first, and a read that returns `false` in the source fails here: the
source gives up on the parameter set then, whatever it has read of it.
-/
import Ipmx.H264.Nal

namespace Ipmx.H264

/-! ## `rbsp_from_nal` -/

/-- The loop that drops emulation prevention bytes, `zeroCount` zeros in. -/
def dropEmulationPrevention : Nat → Bytes → Bytes
  | _, [] => []
  | zeroCount, byte :: rest =>
    if zeroCount ≥ 2 ∧ byte = 0x03 then
      dropEmulationPrevention 0 rest
    else
      byte :: dropEmulationPrevention (if byte = 0 then zeroCount + 1 else 0) rest

def rbspFromNal (nal : NalUnit) (expectedType : UInt8) : Option Bytes :=
  match nal with
  | [] => none
  | header :: data =>
    if h264NalType nal ≠ expectedType ∨ header &&& 0x80 ≠ 0 then none
    else some (dropEmulationPrevention 0 data)

/-! ## `BitReader` -/

/-- The bits of a byte string, in reading order. -/
def bitsOf (bytes : Bytes) : List Bool :=
  bytes.flatMap fun byte => (List.range 8).map fun i => byte.toNat.testBit (7 - i)

abbrev BitReader := StateT (List Bool) Option

def readBits (count : Nat) : BitReader UInt32 := fun bits =>
  if count > 32 ∨ count > bits.length then none
  else
    some ((bits.take count).foldl (fun value bit => value <<< 1 ||| (if bit then 1 else 0)) 0,
      bits.drop count)

def readBit : BitReader Bool := do
  return (← readBits 1) ≠ 0

/-- The loop of `read_ue` over the zeros in front of the marker bit, at most `limit` of them. -/
def readLeadingZeroBits : Nat → BitReader Nat
  | 0 => do
    let bit ← readBit
    if bit then pure 0 else failure
  | limit + 1 => do
    let bit ← readBit
    if bit then pure 0 else return (← readLeadingZeroBits limit) + 1

def readUe : BitReader UInt32 := do
  let leadingZeroBits ← readLeadingZeroBits 31
  let suffix ← readBits leadingZeroBits
  return (1 <<< UInt32.ofNat leadingZeroBits) - 1 + suffix

def readSe : BitReader Int := do
  let code ← readUe
  guard (code ≤ 2147483647 * 2)
  return if code &&& 1 ≠ 0 then ((code + 1) / 2).toNat else -(code / 2).toNat

/-- `skip_scaling_list`, with the scales before its next entry. -/
def skipScalingList : Nat → Int → Int → BitReader Unit
  | 0, _, _ => pure ()
  | count + 1, lastScale, nextScale => do
    let nextScale ←
      if nextScale ≠ 0 then do
        let deltaScale ← readSe
        guard (-128 ≤ deltaScale ∧ deltaScale ≤ 127)
        pure ((lastScale + deltaScale + 256) % 256)
      else
        pure nextScale
    skipScalingList count (if nextScale = 0 then lastScale else nextScale) nextScale

/-- A reader run for the values it reads. -/
def BitReader.read {α : Type} (reader : BitReader α) (bytes : Bytes) : Option α :=
  (reader (bitsOf bytes)).map Prod.fst

end Ipmx.H264
