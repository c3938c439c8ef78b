/-
Ipmx.Host.Arguments — what the command lines of the programs have in common:
the numbers of `parse_number`, the two ways `parse_options` ends without options,
and the check of the port. Arguments are byte strings.
-/
import Ipmx.Lib.CommandLine
import Ipmx.Sdp.MakeSdp

namespace Ipmx.Host

open Ipmx.Lib
open Sdp

/-- `--help` prints the usage and exits; everything else that ends `main` early is a throw, and
`what` is the text it prints. -/
inductive Stop
  | usage
  | thrown (what : Bytes)
deriving DecidableEq, Repr

/-- A throw with a text of the program. -/
def Stop.text (what : String) : Stop := .thrown (ascii what)

/-- `parse_number`, for a type with this largest value. `std::from_chars` takes digits only, and
a value beyond 64 bits is beyond `maximum`. -/
def parseNumber (maximum : Nat) (text : Bytes) (option : String) : Except Stop Nat :=
  if text = [] ∨ ¬ text.all isDigit ∨ decimalValue text > maximum then
    .error (.text ("invalid value for " ++ option))
  else
    .ok (decimalValue text)

def parseUInt8 (text : Bytes) (option : String) : Except Stop UInt8 :=
  (parseNumber 255 text option).map UInt8.ofNat

def parseUInt16 (text : Bytes) (option : String) : Except Stop UInt16 :=
  (parseNumber 65535 text option).map UInt16.ofNat

def parseUInt32 (text : Bytes) (option : String) : Except Stop UInt32 :=
  (parseNumber 4294967295 text option).map UInt32.ofNat

def missingValue (key : Bytes) : Stop := .thrown (ascii "missing value after " ++ key)

def unknownOption (key : Bytes) : Stop := .thrown (ascii "unknown option: " ++ key)

/-- What a check of the library throws. -/
def thrown {α : Type} (x : Except String α) : Except Stop α := x.mapError Stop.text

theorem thrown_eq_ok {α : Type} {x : Except String α} {a : α} : thrown x = .ok a ↔ x = .ok a :=
  mapError_eq_ok

/-! ## The port -/

/-- What is written to `std::cerr` about a port. -/
def portWarnings (port : UInt16) : List String :=
  if isRecommendedIpmxMediaPort port then []
  else ["warning: IPMX recommends an RTP media port greater than 5000"]

theorem validateIpmxMediaPort_eq_ok {port : UInt16} {u : Unit} :
    validateIpmxMediaPort port = .ok u ↔ isValidIpmxMediaPort port = true := by
  rw [validateIpmxMediaPort, rejectIf_eq_ok, Bool.not_eq_true, Bool.not_eq_false]

end Ipmx.Host
