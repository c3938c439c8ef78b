/-
Ipmx.Sender.Options — `parse_options` of the sender's `main.cpp`.

The keys that take a value are the constructors of `Key`; `Key.parse` reads the
value behind a key and `Options.set` stores it, as the branches of the source
do. `--mtu` is another spelling of `--maxudp`. The parameters of `main` are the
arguments behind the name of the program. Paths are byte strings.
-/
import Ipmx.Host.Arguments

namespace Ipmx.Sender

open Ipmx.Lib Ipmx.Lib.CommandLine
open Host Rtp Sdp

inductive H264Profile
  | main
  | high
deriving DecidableEq, Repr

structure Options where
  source : Bytes := ascii "test"
  group : Bytes := ascii "239.255.42.42"
  interfaceAddress : Bytes := ascii "0.0.0.0"
  port : UInt16 := 5004
  width : UInt32 := 1280
  height : UInt32 := 720
  fpsNumerator : UInt32 := 60
  fpsDenominator : UInt32 := 1
  bitrateKbps : UInt32 := 4000
  profile : H264Profile := .high
  maximumIpBitrateKbps : UInt32 := 0
  durationSeconds : UInt32 := 0
  maximumUdpBytes : UInt16 := 1200
  sdp : Bytes := ascii "ipmx.sdp"
  dumpH264 : Bytes := []
  dumpPcap : Bytes := []
  metricsCsv : Bytes := []
  metricsJson : Bytes := []
  productionCsv : Bytes := []
  tsRefclk : Bytes := []
  encoderDelayNs : Option UInt64 := none
  senderReportsDelayNs : Option UInt64 := none
  accessUnitOffsetNs : Option UInt64 := none
  latePacketThresholdNs : UInt64 := 1000000
  dscp : UInt8 := 36
  requireTimingCompliance : Bool := false
deriving DecidableEq, Repr

namespace Options

/-! ## Keys -/

inductive Key
  | requireTimingCompliance
  | source
  | width
  | height
  | productionCsv
  | fpsDenominator
  | fps
  | bitrateKbps
  | profile
  | maxIpBitrateKbps
  | group
  | port
  | interface
  | maxudp
  | durationSeconds
  | sdp
  | dumpH264
  | dumpPcap
  | metricsCsv
  | metricsJson
  | tsRefclk
  | encoderDelayUs
  | senderReportsDelayUs
  | accessUnitOffsetUs
  | latePacketThresholdUs
  | dscp
deriving DecidableEq, Repr

/-- What is stored for a key. -/
def Key.Value : Key → Type
  | .requireTimingCompliance => Unit
  | .width | .height | .fpsDenominator | .fps | .bitrateKbps | .maxIpBitrateKbps
  | .durationSeconds => UInt32
  | .port | .maxudp => UInt16
  | .dscp => UInt8
  | .encoderDelayUs | .senderReportsDelayUs | .accessUnitOffsetUs | .latePacketThresholdUs => UInt64
  | .profile => H264Profile
  | .source | .productionCsv | .group | .interface | .sdp | .dumpH264 | .dumpPcap | .metricsCsv
  | .metricsJson | .tsRefclk => Bytes

/-- The keys with a value, in the order in which they are compared. -/
def keys : List (Bytes × Key) :=
  [(ascii "--source", .source),
   (ascii "--width", .width),
   (ascii "--height", .height),
   (ascii "--production-csv", .productionCsv),
   (ascii "--fps-denominator", .fpsDenominator),
   (ascii "--fps", .fps),
   (ascii "--bitrate-kbps", .bitrateKbps),
   (ascii "--profile", .profile),
   (ascii "--max-ip-bitrate-kbps", .maxIpBitrateKbps),
   (ascii "--group", .group),
   (ascii "--port", .port),
   (ascii "--interface", .interface),
   (ascii "--maxudp", .maxudp),
   (ascii "--mtu", .maxudp),
   (ascii "--duration-seconds", .durationSeconds),
   (ascii "--sdp", .sdp),
   (ascii "--dump-h264", .dumpH264),
   (ascii "--dump-pcap", .dumpPcap),
   (ascii "--metrics-csv", .metricsCsv),
   (ascii "--metrics-json", .metricsJson),
   (ascii "--ts-refclk", .tsRefclk),
   (ascii "--encoder-delay-us", .encoderDelayUs),
   (ascii "--sender-reports-delay-us", .senderReportsDelayUs),
   (ascii "--access-unit-offset-us", .accessUnitOffsetUs),
   (ascii "--late-packet-threshold-us", .latePacketThresholdUs),
   (ascii "--dscp", .dscp)]

/-- `parse_delay_us`: microseconds, stored as nanoseconds. -/
def parseDelayUs (text : Bytes) (option : String) : Except Stop UInt64 := do
  let microseconds ← parseNumber Word64.maximum text option
  rejectIf (microseconds > Word64.maximum / 1000) (.text ("invalid value for " ++ option))
  return UInt64.ofNat (microseconds * 1000)

def parseProfile (text : Bytes) : Except Stop H264Profile :=
  if text = ascii "main" then .ok .main
  else if text = ascii "high" then .ok .high
  else .error (.text "--profile must be main or high")

/-- The value behind a key. -/
def Key.parse (text : Bytes) : ∀ key : Key, Except Stop key.Value
  | .requireTimingCompliance => .ok ()
  | .source => .ok text
  | .width => parseUInt32 text "--width"
  | .height => parseUInt32 text "--height"
  | .productionCsv => .ok text
  | .fpsDenominator => parseUInt32 text "--fps-denominator"
  | .fps => parseUInt32 text "--fps"
  | .bitrateKbps => parseUInt32 text "--bitrate-kbps"
  | .profile => parseProfile text
  | .maxIpBitrateKbps => parseUInt32 text "--max-ip-bitrate-kbps"
  | .group => .ok text
  | .port => parseUInt16 text "--port"
  | .interface => .ok text
  | .maxudp => parseUInt16 text "--maxudp"
  | .durationSeconds => parseUInt32 text "--duration-seconds"
  | .sdp => .ok text
  | .dumpH264 => .ok text
  | .dumpPcap => .ok text
  | .metricsCsv => .ok text
  | .metricsJson => .ok text
  | .tsRefclk => .ok text
  | .encoderDelayUs => parseDelayUs text "--encoder-delay-us"
  | .senderReportsDelayUs => parseDelayUs text "--sender-reports-delay-us"
  | .accessUnitOffsetUs => parseDelayUs text "--access-unit-offset-us"
  | .latePacketThresholdUs => parseDelayUs text "--late-packet-threshold-us"
  | .dscp => parseUInt8 text "--dscp"

/-- Where a value is stored. -/
def set : ∀ key : Key, key.Value → Options → Options
  | .requireTimingCompliance, _, o => { o with requireTimingCompliance := true }
  | .source, value, o => { o with source := value }
  | .width, value, o => { o with width := value }
  | .height, value, o => { o with height := value }
  | .productionCsv, value, o => { o with productionCsv := value }
  | .fpsDenominator, value, o => { o with fpsDenominator := value }
  | .fps, value, o => { o with fpsNumerator := value }
  | .bitrateKbps, value, o => { o with bitrateKbps := value }
  | .profile, value, o => { o with profile := value }
  | .maxIpBitrateKbps, value, o => { o with maximumIpBitrateKbps := value }
  | .group, value, o => { o with group := value }
  | .port, value, o => { o with port := value }
  | .interface, value, o => { o with interfaceAddress := value }
  | .maxudp, value, o => { o with maximumUdpBytes := value }
  | .durationSeconds, value, o => { o with durationSeconds := value }
  | .sdp, value, o => { o with sdp := value }
  | .dumpH264, value, o => { o with dumpH264 := value }
  | .dumpPcap, value, o => { o with dumpPcap := value }
  | .metricsCsv, value, o => { o with metricsCsv := value }
  | .metricsJson, value, o => { o with metricsJson := value }
  | .tsRefclk, value, o => { o with tsRefclk := value }
  | .encoderDelayUs, value, o => { o with encoderDelayNs := some value }
  | .senderReportsDelayUs, value, o => { o with senderReportsDelayNs := some value }
  | .accessUnitOffsetUs, value, o => { o with accessUnitOffsetNs := some value }
  | .latePacketThresholdUs, value, o => { o with latePacketThresholdNs := value }
  | .dscp, value, o => { o with dscp := value }

/-! ## The loop over the arguments -/

def grammar : Grammar Bytes Key Key.Value Stop where
  flag key :=
    if key = ascii "--help" then some (.error .usage)
    else if key = ascii "--require-timing-compliance" then
      some (.ok ⟨.requireTimingCompliance, ()⟩)
    else none
  option key value :=
    match keys.lookup key with
    | some known => (Key.parse value known).map fun value => ⟨known, value⟩
    | none => .error (unknownOption key)
  missing := missingValue

/-! ## The checks behind the loop -/

/-- `parse_options`: the options, and the warnings it has written to `std::cerr`. -/
def parseOptions (args : List Bytes) : Except Stop (Options × List String) := do
  let options ← grammar.read set args {}
  rejectIf (options.source ≠ ascii "test" ∧ options.source ≠ ascii "stress"
    ∧ options.source ≠ ascii "screen") (.text "--source must be test, stress or screen")
  thrown (validateIpmxMediaPort options.port)
  let warnings := portWarnings options.port
  rejectIf (options.maximumUdpBytes < 64
    ∨ options.maximumUdpBytes.toNat > kMaximumStandardUdpPayloadBytes)
    (.text ("--maxudp must be between 64 and " ++ toString kMaximumStandardUdpPayloadBytes
      ++ " to avoid IPv4 fragmentation"))
  rejectIf (options.bitrateKbps = 0) (.text "--bitrate-kbps must be non-zero")
  rejectIf (options.latePacketThresholdNs = 0)
    (.text "--late-packet-threshold-us must be non-zero")
  rejectIf (options.dscp > 63) (.text "--dscp must be in the range 0..63")
  let requiredIpBitrate ← thrown
    (minimumIpBitrateKbps options.bitrateKbps options.maximumUdpBytes)
  let options :=
    if options.maximumIpBitrateKbps = 0 then
      { options with maximumIpBitrateKbps := requiredIpBitrate }
    else options
  rejectIf (options.maximumIpBitrateKbps < requiredIpBitrate)
    (.text "--max-ip-bitrate-kbps must include the encoded bitrate and IP overhead")
  return (options, warnings)

end Options
end Ipmx.Sender
