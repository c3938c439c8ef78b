/-
Ipmx.Timing.FrameIntervalTracker — `FrameIntervalTracker` of `traffic_shaper.cpp`.

The deque of timestamps is a list with the oldest one first. Times and intervals
are 64-bit words; `observe` subtracts them in the words of the source.
-/
import Mathlib.Data.List.Basic

namespace Ipmx.Timing

structure FrameIntervalTracker where
  windowNs : UInt64 := 2000000000
  maximumIntervalSpreadNs : UInt64 := 0
  windowObserved : Bool := false
  timestamps : List UInt64 := []
deriving DecidableEq, Repr

namespace FrameIntervalTracker

/-- The loop that takes timestamps off the front: the second one stays if it is less than the
window behind. -/
def trim (windowNs firstPacketTimeNs : UInt64) : List UInt64 → List UInt64
  | first :: second :: third :: rest =>
    if firstPacketTimeNs - second ≥ windowNs then
      trim windowNs firstPacketTimeNs (second :: third :: rest)
    else
      first :: second :: third :: rest
  | timestamps => timestamps

/-- The loop over the intervals, with the minimum and the maximum so far. -/
def intervalRange : List UInt64 → UInt64 → UInt64 → UInt64 × UInt64
  | first :: second :: rest, minimum, maximum =>
    let interval := second - first
    intervalRange (second :: rest) (min minimum interval) (max maximum interval)
  | _, minimum, maximum => (minimum, maximum)

def observe (t : FrameIntervalTracker) (firstPacketTimeNs : UInt64) : FrameIntervalTracker :=
  if t.timestamps.getLast?.any fun last => firstPacketTimeNs < last then
    t
  else
    let timestamps := trim t.windowNs firstPacketTimeNs (t.timestamps ++ [firstPacketTimeNs])
    if timestamps.length < 3 ∨ firstPacketTimeNs - timestamps.headD 0 < t.windowNs then
      { t with timestamps }
    else
      let (minimum, maximum) := intervalRange timestamps 0xFFFFFFFFFFFFFFFF 0
      { t with
        timestamps
        windowObserved := true
        maximumIntervalSpreadNs := max t.maximumIntervalSpreadNs (maximum - minimum) }

/-- A tracker that has observed some packets. -/
def observeAll (windowNs : UInt64) (observations : List UInt64) : FrameIntervalTracker :=
  observations.foldl observe { windowNs }

end FrameIntervalTracker
end Ipmx.Timing
