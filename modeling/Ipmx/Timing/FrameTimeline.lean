/-
Ipmx.Timing.FrameTimeline — the frame timeline (`frame_timeline.hpp`), the
90 kHz media clock (`rtp_timestamp_for_frame`) and the frames a
`TestPatternSource` takes from them.

Times are natural numbers below `2 ^ 64`, and every 64-bit sum or product is
reduced where the source can leave that range. The pixels of a test frame are
not part of its timing and are left out.
-/
import Ipmx.Lib.Word64

namespace Ipmx.Timing

open Ipmx.Lib

structure FrameSlot where
  index : Nat
  nominalNs : Nat
  skipped : Nat
deriving DecidableEq, Repr

/-- `select_frame_slot`: `none` where it throws. -/
def selectFrameSlot (start now next numerator denominator : Nat) : Option FrameSlot :=
  if numerator = 0 ∨ denominator = 0 then
    none
  else
    let scale := Word64.wrap (1000000000 * denominator)
    let elapsed := if now > start then now - start else 0
    let latest := Word64.wrap (Word64.wrap (elapsed / scale * numerator)
      + Word64.wrap (elapsed % scale * numerator) / scale)
    let index := if next < latest then latest else next
    some
      { index
        nominalNs := Word64.wrap (start + index / numerator * scale
          + Word64.wrap (index % numerator * scale) / numerator)
        skipped := index - next }

/-- `rtp_timestamp_for_frame`: `none` where it throws. -/
def rtpTimestampForFrame (initialTimestamp : UInt32) (frameIndex fpsNumerator fpsDenominator : Nat) :
    Option UInt32 :=
  if fpsNumerator = 0 ∨ fpsDenominator = 0 then
    none
  else
    let ticks := Word64.wrap (frameIndex * 90000 * fpsDenominator + fpsNumerator / 2)
      / fpsNumerator
    some (initialTimestamp + UInt32.ofNat ticks)

/-! ## The test pattern source -/

/-- The clock readings of one call of `next`: the first is used only while `frame_index_` is
0, the last is the capture time. -/
structure Readings where
  startNs : Nat
  nowNs : Nat
  captureNs : Nat
deriving DecidableEq, Repr

/-- The timing of a `BgraFrame`. -/
structure BgraFrame where
  frameIndex : Nat
  nominalTimeNs : Nat
  captureTimeNs : Nat
  skippedIntervals : Nat
deriving DecidableEq, Repr

structure TestPatternSource where
  fpsNumerator : Nat
  fpsDenominator : Nat
  frameIndex : Nat := 0
  startNs : Nat
deriving DecidableEq, Repr

/-- `TestPatternSource::next`. -/
def TestPatternSource.next (s : TestPatternSource) (readings : Readings) :
    Option (BgraFrame × TestPatternSource) :=
  let startNs := if s.frameIndex = 0 then readings.startNs else s.startNs
  match selectFrameSlot startNs readings.nowNs s.frameIndex s.fpsNumerator s.fpsDenominator with
  | none => none
  | some slot =>
    some
      ({ frameIndex := slot.index, nominalTimeNs := slot.nominalNs
         captureTimeNs := readings.captureNs, skippedIntervals := slot.skipped },
       { s with frameIndex := Word64.wrap (slot.index + 1), startNs })

/-- The frames of a run of calls. -/
def TestPatternSource.frames (s : TestPatternSource) : List Readings → Option (List BgraFrame)
  | [] => some []
  | readings :: rest =>
    match s.next readings with
    | none => none
    | some (frame, s) =>
      match s.frames rest with
      | none => none
      | some frames => some (frame :: frames)

end Ipmx.Timing
