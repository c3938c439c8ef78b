/-
Ipmx.Receiver.Options — `parse_options` of the receiver's `main.cpp`.

The description behind the first `--sdp` is read in front of everything else,
and gives the defaults of the stream; then the arguments are gone through once.
That first pass looks at every argument, whatever stands in front of it. The
files are a map from paths to contents, and `stod` is that of `parse_sdp`.
-/
import Ipmx.Host.Arguments
import Ipmx.Sdp.ValidateSdp

namespace Ipmx.Receiver

open Ipmx.Lib Ipmx.Lib.CommandLine
open Host Sdp

structure Options where
  group : Bytes := ascii "239.255.42.42"
  interfaceAddress : Bytes := ascii "0.0.0.0"
  port : UInt16 := 5004
  width : UInt32 := 1280
  height : UInt32 := 720
  fpsNumerator : UInt32 := 60
  fpsDenominator : UInt32 := 1
  durationSeconds : UInt32 := 0
  maximumLatencyMs : UInt32 := 250
  localClock : Bool := false
  requireZeroLoss : Bool := false
  sdp : Bytes := []
deriving DecidableEq, Repr

namespace Options

/-! ## Keys -/

inductive Key
  | localClock
  | requireZeroLoss
  | sdp
  | width
  | height
  | fps
  | group
  | port
  | interface
  | durationSeconds
  | maxLatencyMs
deriving DecidableEq, Repr

/-- What is stored for a key. -/
def Key.Value : Key → Type
  | .localClock | .requireZeroLoss => Unit
  | .sdp | .group | .interface => Bytes
  | .port => UInt16
  | .width | .height | .fps | .durationSeconds | .maxLatencyMs => UInt32

/-- The keys with a value, in the order in which they are compared. -/
def keys : List (Bytes × Key) :=
  [(ascii "--sdp", .sdp),
   (ascii "--width", .width),
   (ascii "--height", .height),
   (ascii "--fps", .fps),
   (ascii "--group", .group),
   (ascii "--port", .port),
   (ascii "--interface", .interface),
   (ascii "--duration-seconds", .durationSeconds),
   (ascii "--max-latency-ms", .maxLatencyMs)]

/-- The value behind a key. -/
def Key.parse (text : Bytes) : ∀ key : Key, Except Stop key.Value
  | .localClock => .ok ()
  | .requireZeroLoss => .ok ()
  | .sdp => .ok text
  | .width => Host.parseUInt32 text "--width"
  | .height => Host.parseUInt32 text "--height"
  | .fps => Host.parseUInt32 text "--fps"
  | .group => .ok text
  | .port => Host.parseUInt16 text "--port"
  | .interface => .ok text
  | .durationSeconds => Host.parseUInt32 text "--duration-seconds"
  | .maxLatencyMs => Host.parseUInt32 text "--max-latency-ms"

/-- Where a value is stored. `--fps` gives a whole number of frames per second. -/
def set : ∀ key : Key, key.Value → Options → Options
  | .localClock, _, o => { o with localClock := true }
  | .requireZeroLoss, _, o => { o with requireZeroLoss := true }
  | .sdp, value, o => { o with sdp := value }
  | .width, value, o => { o with width := value }
  | .height, value, o => { o with height := value }
  | .fps, value, o => { o with fpsNumerator := value, fpsDenominator := 1 }
  | .group, value, o => { o with group := value }
  | .port, value, o => { o with port := value }
  | .interface, value, o => { o with interfaceAddress := value }
  | .durationSeconds, value, o => { o with durationSeconds := value }
  | .maxLatencyMs, value, o => { o with maximumLatencyMs := value }

def grammar : Grammar Bytes Key Key.Value Stop where
  flag key :=
    if key = ascii "--local-clock" then some (.ok ⟨.localClock, ()⟩)
    else if key = ascii "--help" then some (.error .usage)
    else if key = ascii "--require-zero-loss" then some (.ok ⟨.requireZeroLoss, ()⟩)
    else none
  option key value :=
    match keys.lookup key with
    | some known => (Key.parse value known).map fun value => ⟨known, value⟩
    | none => .error (unknownOption key)
  missing := missingValue

/-! ## The description -/

/-- The argument behind the first `--sdp`. -/
def sdpPath : List Bytes → Option Bytes
  | [] => none
  | [_] => none
  | key :: path :: rest => if key = ascii "--sdp" then some path else sdpPath (path :: rest)

/-- The errors of the validator, in one text. -/
def nonconforming (errors : List String) : Stop :=
  .text (errors.foldl (fun message error => message ++ "; " ++ error)
    "SDP does not conform to the IPMX H.264 transport profile")

variable (files : Bytes → Option Bytes) (stod : Bytes → Except String Float)

/-- `read_sdp_description` of a file. -/
def readSdpFile (path : Bytes) : Except Stop SdpDescription :=
  match files path with
  | none => .error (.text "cannot open SDP file")
  | some text => thrown (readSdpDescription stod text)

/-- The options of a description. -/
def ofSdp (path : Bytes) (settings : SdpSettings) : Options where
  sdp := path
  group := settings.multicastGroup
  port := settings.port
  width := settings.width
  height := settings.height
  fpsNumerator := settings.fpsNumerator
  fpsDenominator := settings.fpsDenominator

/-- The first loop over the arguments. -/
def described (args : List Bytes) : Except Stop Options :=
  match sdpPath args with
  | none => .ok {}
  | some path => do
    let description ← readSdpFile files stod path
    let validation ← thrown (validateIpmxSdp description)
    rejectIf (validation ≠ []) (nonconforming validation)
    return ofSdp path description.settings

/-! ## All of it -/

/-- `parse_options`: the options, and the warnings it has written to `std::cerr`. -/
def parseOptions (args : List Bytes) : Except Stop (Options × List String) := do
  let options ← described files stod args
  let options ← grammar.read set args options
  rejectIf (options.maximumLatencyMs = 0) (.text "--max-latency-ms must be greater than zero")
  thrown (validateIpmxMediaPort options.port)
  return (options, portWarnings options.port)

end Options
end Ipmx.Receiver
