/-
Ipmx.Sdp.Text — the text helpers of `sdp.cpp`, and the stream extractions of
its media line.

`std::tolower` and `std::isspace` are those of the "C" locale, in which the
programs run.
-/
import Ipmx.H264.Nal
import Ipmx.Lib.Check
import Ipmx.Lib.Text

namespace Ipmx.Sdp

open Ipmx.Lib

/-! ## Blanks and case -/

/-- The characters `trim` takes off. -/
def isBlank (b : UInt8) : Bool := b = asciiByte ' ' || b = asciiByte '\t'

def trim (value : Bytes) : Bytes :=
  ((value.dropWhile isBlank).reverse.dropWhile isBlank).reverse

/-- `std::tolower`. -/
def toLower (b : UInt8) : UInt8 := if 65 ≤ b ∧ b ≤ 90 then b + 32 else b

def lowercase (value : Bytes) : Bytes := value.map toLower

def iequals (left right : Bytes) : Bool := lowercase left = lowercase right

/-! ## Numbers -/

/-- `parse_integer`, for a type with this largest value. `std::from_chars` takes digits only,
and a value beyond 64 bits is beyond `maximum`. -/
def parseInteger (maximum : Nat) (text : Bytes) (field : String) : Except String Nat :=
  if text = [] ∨ ¬ text.all isDigit ∨ decimalValue text > maximum then
    .error ("invalid SDP " ++ field)
  else
    .ok (decimalValue text)

/-- `std::isspace`. -/
def isSpace (b : UInt8) : Bool := b = asciiByte ' ' || 9 ≤ b && b ≤ 13

/-- `stream >> unsigned`: white space, a sign and digits; the value, and what is left of the
stream. A negated value is reduced modulo `2 ^ 32`. -/
def extractUnsigned (stream : Bytes) : Option (Nat × Bytes) :=
  let stream := stream.dropWhile isSpace
  let negative := stream.head? = some (asciiByte '-')
  let stream := if negative ∨ stream.head? = some (asciiByte '+') then stream.tail else stream
  let digits := stream.takeWhile isDigit
  if digits = [] ∨ decimalValue digits ≥ 2 ^ 32 then none
  else
    some (if negative then (2 ^ 32 - decimalValue digits) % 2 ^ 32 else decimalValue digits,
      stream.dropWhile isDigit)

/-- `stream >> std::string`: white space, then everything up to the next one. -/
def extractString (stream : Bytes) : Option (Bytes × Bytes) :=
  let stream := stream.dropWhile isSpace
  if stream = [] then none
  else some (stream.takeWhile (! isSpace ·), stream.dropWhile (! isSpace ·))

end Ipmx.Sdp
