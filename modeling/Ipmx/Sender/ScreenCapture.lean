/-
Ipmx.Sender.ScreenCapture — `PrimaryMonitorSource::next` of `wgc_capture.cpp`
and the loop of the sender's `main` around it.

The clock readings of a call and the frame that is waiting when it is looked at
are arguments of the step. Time points of `std::chrono::steady_clock` are
natural numbers of nanoseconds: no machine runs for the 292 years at which their
64 bits end. The pixels, the encoder and the transmitter are left out; what the
loop reports and the timestamp it gives a frame do not depend on them.
-/
import Ipmx.Lib.RoundedClock
import Ipmx.Lib.Trace
import Ipmx.Timing.FrameTimeline

namespace Ipmx.Sender

open Ipmx.Lib
open Timing

/-! ## The source -/

/-- What one call of `next` sees: the capture time of the frame in `latest_`, if there is one,
and its clock readings in the order they are made. -/
structure ScreenReadings where
  captured : Option Nat
  scheduleNs : Nat
  wakeNs : Nat
  repeatNs : Nat
  nowNs : Nat
deriving DecidableEq, Repr

/-- A `BgraFrame` of a monitor. -/
structure MonitorFrame extends BgraFrame where
  repeated : Bool
deriving DecidableEq, Repr

structure PrimaryMonitorSource where
  framePeriod : Nat
  nextDeadline : Nat := 0
  scheduleInitialized : Bool := false
  haveFrame : Bool := false
  framePeriod_pos : 0 < framePeriod
deriving DecidableEq

/-- The constructor: `none` where it throws "invalid WGC frame rate". -/
def PrimaryMonitorSource.new? (fpsNumerator fpsDenominator : UInt32) :
    Option PrimaryMonitorSource :=
  if fpsNumerator = 0 ∨ fpsDenominator = 0 then
    none
  else
    some
      { framePeriod := max 1 (1000000000 * fpsDenominator.toNat / fpsNumerator.toNat)
        framePeriod_pos := Nat.lt_of_lt_of_le Nat.zero_lt_one (Nat.le_max_left _ _) }

/-- `do { next_deadline_ += frame_period_; } while (next_deadline_ <= now)`. Every round moves
the deadline on, so that `now + 1` rounds are enough. -/
def advanceDeadline (framePeriod now : Nat) : Nat → Nat → Nat
  | 0, deadline => deadline
  | fuel + 1, deadline =>
    if deadline + framePeriod ≤ now then
      advanceDeadline framePeriod now fuel (deadline + framePeriod)
    else
      deadline + framePeriod

/-- The deadline a call waits for. -/
def PrimaryMonitorSource.deadline (s : PrimaryMonitorSource) (readings : ScreenReadings) : Nat :=
  if s.scheduleInitialized then s.nextDeadline else readings.scheduleNs

/-- `PrimaryMonitorSource::next`. There is no such call with a reading before the deadline
behind the wait for it; without a first frame it returns false. -/
def PrimaryMonitorSource.next (s : PrimaryMonitorSource) (readings : ScreenReadings) :
    Option (Option MonitorFrame × PrimaryMonitorSource) :=
  if ¬ s.haveFrame ∧ readings.captured = none then
    some (none, s)
  else if readings.wakeNs < s.deadline readings then
    none
  else
    let frame : MonitorFrame := match readings.captured with
      | some captureTimeNs =>
        { frameIndex := 0, nominalTimeNs := 0, captureTimeNs, skippedIntervals := 0
          repeated := false }
      | none =>
        { frameIndex := 0, nominalTimeNs := 0, captureTimeNs := readings.repeatNs
          skippedIntervals := 0, repeated := true }
    some (some frame,
      { s with
        nextDeadline := advanceDeadline s.framePeriod readings.nowNs (readings.nowNs + 1)
          (s.deadline readings)
        scheduleInitialized := true
        haveFrame := s.haveFrame || readings.captured.isSome })

/-! ## The loop of `main` -/

/-- What the loop keeps fixed. -/
structure ScreenSession where
  initialTimestamp : UInt32
  fpsNumerator : Nat
  fpsDenominator : Nat
deriving DecidableEq, Repr

/-- A frame handed to the transmitter, and the deadline it was taken at, which is not part of
what is handed over. -/
structure SentFrame where
  timestamp : UInt32
  captureTimeNs : Nat
  nominalTimeNs : Nat
  deadlineNs : Nat
deriving DecidableEq, Repr

/-- The variables of the loop. The last two are records of the run: the frames sent, and the
number of deadlines that were passed over. -/
structure ScreenLoop where
  source : PrimaryMonitorSource
  frameIndex : Nat := 0
  skippedIntervals : Nat := 0
  cachedNv12 : Bool := false
  sent : List SentFrame := []
  passedOver : Nat := 0
deriving DecidableEq

/-- The deadlines behind the one a frame is taken at that have passed when the call ends. -/
def PrimaryMonitorSource.passedOver (s : PrimaryMonitorSource) (readings : ScreenReadings) : Nat :=
  (readings.nowNs - s.deadline readings) / s.framePeriod

/-- One round of the loop with `--source screen`: the media index is the frame counter. -/
def ScreenLoop.step (session : ScreenSession) (loop : ScreenLoop) (readings : ScreenReadings) :
    Option ScreenLoop :=
  match loop.source.next readings with
  | none => none
  | some (none, source) => some { loop with source }
  | some (some frame, source) =>
    let taken := { loop with
      source
      skippedIntervals := Word64.wrap (loop.skippedIntervals + frame.skippedIntervals)
      passedOver := loop.passedOver + loop.source.passedOver readings }
    if frame.repeated ∧ ¬ loop.cachedNv12 then
      some taken
    else
      match rtpTimestampForFrame session.initialTimestamp loop.frameIndex session.fpsNumerator
          session.fpsDenominator with
      | none => none
      | some timestamp =>
        some { taken with
          frameIndex := Word64.wrap (loop.frameIndex + 1)
          cachedNv12 := true
          sent := loop.sent ++
            [{ timestamp
               captureTimeNs := frame.captureTimeNs
               nominalTimeNs :=
                 if frame.nominalTimeNs ≠ 0 then frame.nominalTimeNs else frame.captureTimeNs
               deadlineNs := loop.source.deadline readings }] }

/-- The loop when `main` enters it. -/
def ScreenLoop.initial (source : PrimaryMonitorSource) : ScreenLoop := { source }

/-! ## The media timeline -/

/-- A time span in 90 kHz ticks, to the nearest. -/
def mediaTicks (ns : Nat) : Nat := RoundedClock.nearest (ns * 90000) 1000000000

/-- One frame period in 90 kHz ticks, rounded up. -/
def ScreenSession.periodTicks (session : ScreenSession) : Nat :=
  (90000 * session.fpsDenominator + session.fpsNumerator - 1) / session.fpsNumerator

/-- The RTP timestamp of a frame is as far from the first one as its deadline, modulo `2 ^ 32`
and give or take a frame period. -/
def ScreenSession.Tracks (session : ScreenSession) (first frame : SentFrame) : Prop :=
  ∃ ticks : Nat, frame.timestamp - first.timestamp = UInt32.ofNat ticks
    ∧ ticks ≤ mediaTicks (frame.deadlineNs - first.deadlineNs) + session.periodTicks
    ∧ mediaTicks (frame.deadlineNs - first.deadlineNs) ≤ ticks + session.periodTicks

/-- The timeline is kept: the timestamps go with the deadlines, and the skipped intervals that
are reported are the deadlines that were passed over. -/
structure KeepsTimeline (session : ScreenSession) (loop : ScreenLoop) : Prop where
  timestamps : ∀ first ∈ loop.sent.head?, ∀ frame ∈ loop.sent, session.Tracks first frame
  skipped : loop.skippedIntervals = loop.passedOver

/-- A round in which no deadline is passed over, the truncation of the frame period has not
added up to a frame period, and the ticks of the timestamp fit 64 bits. -/
structure ScreenSession.OnTime (session : ScreenSession) (loop : ScreenLoop)
    (readings : ScreenReadings) : Prop where
  prompt : readings.nowNs < loop.source.deadline readings + loop.source.framePeriod
  slow : loop.frameIndex * (1000000000 * session.fpsDenominator)
    ≤ loop.frameIndex * (loop.source.framePeriod * session.fpsNumerator)
      + 1000000000 * session.fpsDenominator
  fast : loop.frameIndex * (loop.source.framePeriod * session.fpsNumerator)
    ≤ loop.frameIndex * (1000000000 * session.fpsDenominator)
      + 1000000000 * session.fpsDenominator
  ticks : loop.frameIndex * 90000 * session.fpsDenominator + session.fpsNumerator / 2
    < Word64.size

instance (session : ScreenSession) (loop : ScreenLoop) (readings : ScreenReadings) :
    Decidable (session.OnTime loop readings) :=
  decidable_of_iff
    (readings.nowNs < loop.source.deadline readings + loop.source.framePeriod
      ∧ loop.frameIndex * (1000000000 * session.fpsDenominator)
        ≤ loop.frameIndex * (loop.source.framePeriod * session.fpsNumerator)
          + 1000000000 * session.fpsDenominator
      ∧ loop.frameIndex * (loop.source.framePeriod * session.fpsNumerator)
        ≤ loop.frameIndex * (1000000000 * session.fpsDenominator)
          + 1000000000 * session.fpsDenominator
      ∧ loop.frameIndex * 90000 * session.fpsDenominator + session.fpsNumerator / 2
        < Word64.size)
    ⟨fun h => ⟨h.1, h.2.1, h.2.2.1, h.2.2.2⟩, fun h => ⟨h.prompt, h.slow, h.fast, h.ticks⟩⟩

end Ipmx.Sender
