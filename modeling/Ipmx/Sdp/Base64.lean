/-
Ipmx.Sdp.Base64 — `base64` and `decode_base64` of `sdp.cpp`.

The 32-bit words of the source are natural numbers: the encoder packs 24 bits,
and the decoder masks its accumulator to the bits it has not written yet, so
neither reaches `2 ^ 32`.
-/
import Ipmx.H264.Nal
import Ipmx.Lib.Text

namespace Ipmx.Sdp

open Ipmx.Lib

def base64Alphabet : Bytes :=
  ascii "ABCDEFGHIJKLMNOPQRSTUVWXYZabcdefghijklmnopqrstuvwxyz0123456789+/"

/-- `alphabet[(value >> shift) & 0x3F]`. -/
def base64Character (value shift : Nat) : UInt8 :=
  base64Alphabet.getD (value >>> shift &&& 0x3F) 0

/-- The three bytes of one round, packed. -/
def base64Value (a b c : UInt8) : Nat :=
  a.toNat <<< 16 ||| b.toNat <<< 8 ||| c.toNat

/-- `base64`: a round of the loop takes three bytes, the last round what is left. -/
def base64 : Bytes → Bytes
  | [] => []
  | [a] =>
    [base64Character (base64Value a 0 0) 18, base64Character (base64Value a 0 0) 12,
      asciiByte '=', asciiByte '=']
  | [a, b] =>
    [base64Character (base64Value a b 0) 18, base64Character (base64Value a b 0) 12,
      base64Character (base64Value a b 0) 6, asciiByte '=']
  | a :: b :: c :: rest =>
    base64Character (base64Value a b c) 18 :: base64Character (base64Value a b c) 12
      :: base64Character (base64Value a b c) 6 :: base64Character (base64Value a b c) 0
      :: base64 rest

/-- The loop of `decode_base64` over the characters left; what is returned is what it appends
to the output. -/
def decodeBase64Loop (accumulator bits : Nat) (padding : Bool) : Bytes → Option Bytes
  | [] => some []
  | character :: rest =>
    if character = asciiByte '=' then
      decodeBase64Loop accumulator bits true rest
    else if padding then
      none
    else
      match base64Alphabet.idxOf? character with
      | none => none
      | some position =>
        let accumulator := accumulator <<< 6 ||| position
        let bits := bits + 6
        if bits ≥ 8 then
          let bits := bits - 8
          match decodeBase64Loop (accumulator &&& ((1 <<< bits) - 1)) bits padding rest with
          | none => none
          | some output => some (UInt8.ofNat (accumulator >>> bits) :: output)
        else
          decodeBase64Loop accumulator bits padding rest

def decodeBase64 (input : Bytes) : Option Bytes :=
  decodeBase64Loop 0 0 false input

end Ipmx.Sdp
