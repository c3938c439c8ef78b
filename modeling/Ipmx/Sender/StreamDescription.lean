/-
Ipmx.Sender.StreamDescription — what the SDP and the Sender Report say of the
stream.

`StreamParameters` are the parameters that both announce. `ofDescription` takes
them from a description that was read from the SDP, `ofCompound` from the bytes
of a compound packet, at the offsets of the Compressed Video Media Info Block
(`0x0005`, byte 112) and of the H.264 Media Info Block (`0x000A`, byte 204).
Neither is a function of the source: the sender only writes, and a receiver of
another make reads.
-/
import Ipmx.Lib.BigEndian
import Ipmx.Sdp.ReadSdp

namespace Ipmx.Sender

open H264
open Ipmx.Lib
open Ipmx.Lib.BigEndian
open Sdp

structure StreamParameters where
  width : Nat
  height : Nat
  fpsNumerator : Nat
  fpsDenominator : Nat
  profileLevelId : UInt8 × UInt8 × UInt8
  packetizationMode : UInt8
  sps : NalUnit
  pps : NalUnit
deriving DecidableEq, Repr

/-! ## From the SDP -/

/-- The value of an upper-case hexadecimal digit. -/
def hexDigitValue (digit : UInt8) : Option UInt8 :=
  if 48 ≤ digit ∧ digit ≤ 57 then some (digit - 48)
  else if 65 ≤ digit ∧ digit ≤ 70 then some (digit - 55)
  else none

def readHexByte (high low : UInt8) : Option UInt8 := do
  let high ← hexDigitValue high
  let low ← hexDigitValue low
  return 16 * high + low

/-- The three bytes of a `profile-level-id`. -/
def readProfileLevelId (text : Bytes) : Option (UInt8 × UInt8 × UInt8) :=
  match text with
  | [p1, p0, c1, c0, l1, l0] => do
    let profile ← readHexByte p1 p0
    let constraints ← readHexByte c1 c0
    let level ← readHexByte l1 l0
    return (profile, constraints, level)
  | _ => none

def StreamParameters.ofDescription (d : SdpDescription) : Option StreamParameters := do
  let profileLevelId ← readProfileLevelId d.profileLevelId
  let packetizationMode ← d.packetizationMode
  return {
    width := d.settings.width.toNat
    height := d.settings.height.toNat
    fpsNumerator := d.settings.fpsNumerator.toNat
    fpsDenominator := d.settings.fpsDenominator.toNat
    profileLevelId, packetizationMode
    sps := d.sps
    pps := d.pps }

/-! ## From the Sender Report -/

/-- A `sprop-parameter-sets` text, split at its comma and decoded. -/
def readSprop (text : Bytes) : Option (NalUnit × NalUnit) :=
  match cut (asciiByte ',') text with
  | (_, none) => none
  | (sps, some pps) => do
    let sps ← decodeBase64 sps
    let pps ← decodeBase64 pps
    return (sps, pps)

/-- The rate is one word, 22 bits of numerator and 10 of denominator. -/
def StreamParameters.ofCompound (packet : Bytes) : Option StreamParameters := do
  guard (numberAt packet 112 2 = 0x0005 ∧ numberAt packet 204 2 = 0x000A)
  let (sps, pps) ← readSprop (slice packet 232 (numberAt packet 228 1))
  match slice packet 212 4 with
  | [profile, constraints, level, packetizationMode] =>
    some {
      width := numberAt packet 184 2
      height := numberAt packet 186 2
      fpsNumerator := numberAt packet 188 4 / 1024
      fpsDenominator := numberAt packet 188 4 % 1024
      profileLevelId := (profile, constraints, level)
      packetizationMode, sps, pps }
  | _ => none

end Ipmx.Sender
