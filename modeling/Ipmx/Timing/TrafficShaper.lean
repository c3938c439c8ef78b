/-
Ipmx.Timing.TrafficShaper — `Tr107TrafficShaper` and
`NetworkCompatibilityTracker` of `traffic_shaper.cpp`.

What the shaper's constructor computes is a function of its configuration
here, and the two theoretical arrival times are the state. The values derived
from the configuration are far below `2 ^ 64` (a packet rate is at most
`1.9e10`, a tolerance at most `1e13`), so they are plain natural numbers; the
sums of `schedule_ns` with a time or a size saturate or wrap as the source's.
-/
import Ipmx.Lib.Word64

namespace Ipmx.Timing

open Ipmx.Lib

/-! ## The shaper -/

/-- `tr107_cmax`. -/
def tr107Cmax (maximumPacketsPerSecond : Nat) : Nat :=
  min (max 16 (maximumPacketsPerSecond / 21600)) (2 ^ 32 - 1)

/-- The configuration the constructor accepts. -/
structure Tr107TrafficShaper where
  maximumIpBitrateKbps : Nat
  maximumUdpBytes : Nat
  maximumDriftNs : Nat := 100000000
  bitrate_pos : 0 < maximumIpBitrateKbps
  bitrate_lt : maximumIpBitrateKbps < 2 ^ 32
  udpBytes_pos : 0 < maximumUdpBytes
  udpBytes_lt : maximumUdpBytes < 2 ^ 16
  drift_pos : 0 < maximumDriftNs
  drift_lt : maximumDriftNs < 2 ^ 64

namespace Tr107TrafficShaper

/-- The constructor: `none` where it throws. -/
def new? (maximumIpBitrateKbps : UInt32) (maximumUdpBytes : UInt16) (maximumDriftNs : UInt64) :
    Option Tr107TrafficShaper :=
  if h : maximumIpBitrateKbps.toNat = 0 ∨ maximumUdpBytes.toNat = 0
      ∨ maximumDriftNs.toNat = 0 then
    none
  else
    some
      { maximumIpBitrateKbps := maximumIpBitrateKbps.toNat
        maximumUdpBytes := maximumUdpBytes.toNat
        maximumDriftNs := maximumDriftNs.toNat
        bitrate_pos := by omega
        bitrate_lt := maximumIpBitrateKbps.toNat_lt
        udpBytes_pos := by omega
        udpBytes_lt := maximumUdpBytes.toNat_lt
        drift_pos := by omega
        drift_lt := maximumDriftNs.toNat_lt }

def maximumPacketBits (c : Tr107TrafficShaper) : Nat :=
  (c.maximumUdpBytes + 28) * 8

def maximumPacketsPerSecond (c : Tr107TrafficShaper) : Nat :=
  (c.maximumIpBitrateKbps * 1000 + c.maximumPacketBits - 1) / c.maximumPacketBits

def cmax (c : Tr107TrafficShaper) : Nat :=
  tr107Cmax c.maximumPacketsPerSecond

def packetDrainIntervalNs (c : Tr107TrafficShaper) : Nat :=
  (10000000000 + c.maximumPacketsPerSecond * 11 - 1) / (c.maximumPacketsPerSecond * 11)

/-- The time the maximum bitrate takes for a packet. -/
def bitSpacingNs (c : Tr107TrafficShaper) (udpPayloadBytes : Nat) : Nat :=
  let ipBytes := min (Word64.wrap (udpPayloadBytes + 28)) (Word64.maximum / 8000000)
  Word64.wrap (ipBytes * 8000000 + c.maximumIpBitrateKbps - 1) / c.maximumIpBitrateKbps

def maximumPacketSpacingNs (c : Tr107TrafficShaper) : Nat :=
  (c.maximumPacketBits * 1000000 + c.maximumIpBitrateKbps - 1) / c.maximumIpBitrateKbps

def packetTolerance (c : Tr107TrafficShaper) : Nat :=
  (c.cmax - 1) * c.packetDrainIntervalNs

def bitrateTolerance (c : Tr107TrafficShaper) : Nat :=
  (c.cmax - 1) * c.maximumPacketSpacingNs

/-- The two theoretical arrival times; 0 before the first packet. -/
structure State where
  packetTatNs : Nat := 0
  bitrateTatNs : Nat := 0
deriving DecidableEq, Repr

/-- When `schedule_ns` moves both arrival times up to `now_ns`: after a drift, decided on the
packet bucket, or when that bucket is saturated. -/
def Drifted (c : Tr107TrafficShaper) (s : State) (nowNs : Nat) : Prop :=
  (s.packetTatNs ≠ 0 ∧ nowNs > s.packetTatNs ∧ nowNs - s.packetTatNs > c.maximumDriftNs)
    ∨ s.packetTatNs = Word64.maximum

instance (c : Tr107TrafficShaper) (s : State) (nowNs : Nat) : Decidable (c.Drifted s nowNs) :=
  inferInstanceAs (Decidable (_ ∨ _))

/-- The resets at the start of `schedule_ns`. -/
def refresh (c : Tr107TrafficShaper) (s : State) (nowNs : Nat) : State :=
  let s := if c.Drifted s nowNs then { packetTatNs := nowNs, bitrateTatNs := nowNs } else s
  if s.packetTatNs = 0 then { packetTatNs := nowNs, bitrateTatNs := nowNs } else s

/-- `schedule_ns`. The subtractions stop at 0, as the conditionals of the source do. -/
def scheduleNs (c : Tr107TrafficShaper) (s : State) (nowNs udpPayloadBytes : Nat) :
    Nat × State :=
  let s := c.refresh s nowNs
  let packetEarliest := s.packetTatNs - c.packetTolerance
  let bitrateEarliest := s.bitrateTatNs - c.bitrateTolerance
  let scheduled := max nowNs (max packetEarliest bitrateEarliest)
  (scheduled,
   { packetTatNs :=
       Word64.saturatingAdd (max s.packetTatNs scheduled) c.packetDrainIntervalNs
     bitrateTatNs :=
       Word64.saturatingAdd (max s.bitrateTatNs scheduled) (c.bitSpacingNs udpPayloadBytes) })

/-- The state in front of packet `k` of a run. -/
def stateBefore (c : Tr107TrafficShaper) (nowNs udpPayloadBytes : Nat → Nat) : Nat → State
  | 0 => {}
  | k + 1 =>
    (c.scheduleNs (c.stateBefore nowNs udpPayloadBytes k) (nowNs k) (udpPayloadBytes k)).2

/-- The time packet `k` of a run is scheduled for. -/
def scheduled (c : Tr107TrafficShaper) (nowNs udpPayloadBytes : Nat → Nat) (k : Nat) : Nat :=
  (c.scheduleNs (c.stateBefore nowNs udpPayloadBytes k) (nowNs k) (udpPayloadBytes k)).1

end Tr107TrafficShaper

/-! ## The Network Compatibility tracker -/

structure NetworkCompatibilityTracker where
  cmax : Nat
  cinst : Nat := 0
  maximumCinst : Nat := 0
  violations : Nat := 0
  packetDrainIntervalNs : Nat
  epochNs : Nat := 0
  lastDrainCount : Nat := 0
deriving DecidableEq, Repr

namespace NetworkCompatibilityTracker

def defaultBetaNumerator : Nat := 11
def defaultBetaDenominator : Nat := 10

/-- The constructor: `none` where it throws. -/
def new? (maximumPacketsPerSecond cmax betaNumerator betaDenominator : Nat) :
    Option NetworkCompatibilityTracker :=
  if maximumPacketsPerSecond = 0 ∨ cmax = 0 ∨ betaNumerator = 0 ∨ betaDenominator = 0 then
    none
  else
    let numerator := 1000000000 * betaDenominator
    if maximumPacketsPerSecond > numerator / betaNumerator then
      some { cmax, packetDrainIntervalNs := 1 }
    else
      let denominator := maximumPacketsPerSecond * betaNumerator
      some
        { cmax
          packetDrainIntervalNs := max 1 ((numerator + denominator - 1) / denominator) }

/-- The part of `observe` in front of the count: the epoch is set, or the drain ticks since
the last packet are taken off. -/
def drain (t : NetworkCompatibilityTracker) (packetSendTimeNs : Nat) :
    NetworkCompatibilityTracker :=
  if t.epochNs = 0 then
    { t with epochNs := packetSendTimeNs }
  else if packetSendTimeNs ≥ t.epochNs then
    let drainCount := (packetSendTimeNs - t.epochNs) / t.packetDrainIntervalNs
    let drained := Word64.sub drainCount t.lastDrainCount
    { t with
      cinst := if drained ≥ t.cinst then 0 else t.cinst - drained
      lastDrainCount := drainCount }
  else
    t

/-- The count of the packet itself, which stops at the largest 32-bit value. -/
def count (t : NetworkCompatibilityTracker) : NetworkCompatibilityTracker :=
  let cinst := if t.cinst ≠ 2 ^ 32 - 1 then t.cinst + 1 else t.cinst
  { t with
    cinst
    maximumCinst := max t.maximumCinst cinst
    violations := if cinst > t.cmax then Word64.wrap (t.violations + 1) else t.violations }

def observe (t : NetworkCompatibilityTracker) (packetSendTimeNs : Nat) :
    NetworkCompatibilityTracker :=
  (t.drain packetSendTimeNs).count

/-- The tracker after the first `n` packets of a run. -/
def observeFirst (t : NetworkCompatibilityTracker) (sentNs : Nat → Nat) :
    Nat → NetworkCompatibilityTracker
  | 0 => t
  | n + 1 => (t.observeFirst sentNs n).observe (sentNs n)

end NetworkCompatibilityTracker
end Ipmx.Timing
