/-
Ipmx.Sender.ClockAlignment — the timestamps of a run and the wall times of its
reports are one clock.

The frames come from a test pattern source: the nominal time of a frame is the
start of its slot, its RTP timestamp the ticks of its index, and the first
frame fixes the alignment of the two. The timestamp in a report is then the
media clock at the wall time in that report, give or take two ticks
(`SameInstant`), for every frame of every run (`run_sameInstant`): the three
roundings are those of `Ipmx.Lib.RoundedClock`.
-/
import Ipmx.Lib.RoundedClock
import Ipmx.Sender.FrameTransmitterTheorems
import Ipmx.Timing.FrameTimelineTheorems
import Mathlib.Data.Int.ModEq

namespace Ipmx.Sender.FrameTransmitter

open Ipmx.Lib
open Rtcp
open Rtp
open Timing

/-! ## The media clock -/

/-- The 90 kHz clock at a wall time, rounded down. -/
def wallTicks (wallNs : Nat) : Nat := wallNs * 90000 / 1000000000

/-- The transmitter computes it from the seconds and the nanoseconds. -/
theorem clockTimestamp_eq (wallNs : Nat) :
    clockTimestamp wallNs = UInt32.ofNat (wallTicks wallNs) := by
  rw [wallTicks, ← div_mul_add_mod_mul_div wallNs 90000 (by simp)]
  rfl

/-- The report and the packets of a frame carry one timestamp: the media clock at the wall
time of the report, give or take two ticks. -/
structure SameInstant (c : FrameTransmitter) (queued : TransmitFrame × Nat)
    (group : FrameGroup) : Prop where
  ptpSeconds : Rtcp.readU32 group.compound 8 = UInt32.ofNat (c.wallNs queued / 1000000000)
  ptpNanoseconds : Rtcp.readU32 group.compound 12
    = UInt32.ofNat (c.wallNs queued % 1000000000)
  packets : List.Forall₂ (Rewritten (Rtcp.readU32 group.compound 16)) queued.1.rtpPackets
    group.packets
  near : ∃ d : Int, -2 ≤ d ∧ d ≤ 2
    ∧ Int.ModEq (2 ^ 32) (Rtcp.readU32 group.compound 16).toNat
        (wallTicks (c.wallNs queued) + d)

/-! ## Frames of the timeline -/

/-- What a frame needs of the 64-bit range: the timeline fits, and its wall time. -/
structure Fits (c : FrameTransmitter) (startNs numerator denominator index : Nat) : Prop
    extends TimelineFits startNs numerator denominator index where
  wall_ge : c.qpcReferenceNs ≤ c.wallReferenceNs + slotNs startNs numerator denominator index
  wall_lt : c.wallReferenceNs + slotNs startNs numerator denominator index - c.qpcReferenceNs
    < Word64.size

/-- A queued frame with the nominal time and the RTP timestamp of a slot. -/
structure OfSlot (initialTimestamp : UInt32) (startNs numerator denominator index : Nat)
    (queued : TransmitFrame × Nat) : Prop where
  nominalTimeNs : queued.1.nominalTimeNs = slotNs startNs numerator denominator index
  rtpTimestamp : queued.1.rtpTimestamp = initialTimestamp
    + UInt32.ofNat ((index * 90000 * denominator + numerator / 2) / numerator)

theorem toUnixNs_eq (c : FrameTransmitter) {qpcNs : Nat}
    (hge : c.qpcReferenceNs ≤ c.wallReferenceNs + qpcNs)
    (hlt : c.wallReferenceNs + qpcNs - c.qpcReferenceNs < Word64.size) :
    c.toUnixNs qpcNs = c.wallReferenceNs + qpcNs - c.qpcReferenceNs := by
  have hmaximum : Word64.maximum + 1 = Word64.size := rfl
  unfold toUnixNs
  by_cases hlater : qpcNs ≥ c.qpcReferenceNs
  · rw [if_pos ⟨hlater, by omega⟩]
    omega
  · rw [if_neg (fun h => hlater h.1), if_pos ⟨by omega, by omega⟩]
    omega

section Slot

variable {c : FrameTransmitter} {initialTimestamp : UInt32} {startNs numerator denominator : Nat}

/-- The wall time of a slot is the wall time of the start and the time of the slot. -/
theorem OfSlot.wallNs_eq {index : Nat} {queued : TransmitFrame × Nat}
    (h : OfSlot initialTimestamp startNs numerator denominator index queued)
    (hstart : 0 < startNs) (hfits : Fits c startNs numerator denominator index) :
    (c.wallNs queued : Int) = (c.wallReferenceNs + startNs - c.qpcReferenceNs : Int)
      + RoundedClock.eventTime 1000000000 numerator (index * denominator) := by
  have hnominal : frameTimeNs queued = slotNs startNs numerator denominator index := by
    rw [frameTimeNs, if_pos, h.nominalTimeNs]
    rw [h.nominalTimeNs, slotNs]
    exact (Nat.add_pos_left hstart _).ne'
  have htime : RoundedClock.eventTime 1000000000 numerator (index * denominator)
      = ((index * (1000000000 * denominator) / numerator : Nat) : Int) := by
    rw [RoundedClock.eventTime]
    push_cast
    congr 1
    ring
  have hge := hfits.wall_ge
  have hlt := hfits.wall_lt
  rw [wallNs, hnominal, toUnixNs_eq c hge hlt, htime]
  rw [slotNs] at hge ⊢
  generalize index * (1000000000 * denominator) / numerator = slotTime at *
  omega

theorem wallTicks_cast {wallNs : Nat} {time : Int} (h : (wallNs : Int) = time) :
    (wallTicks wallNs : Int) = RoundedClock.clockAt 90000 1000000000 time := by
  rw [RoundedClock.clockAt, ← h, wallTicks]
  push_cast
  rfl

theorem ticks_cast (index numerator denominator : Nat) :
    (((index * 90000 * denominator + numerator / 2) / numerator : Nat) : Int)
      = RoundedClock.ticks 90000 numerator (index * denominator) := by
  rw [RoundedClock.ticks]
  push_cast
  congr 2
  ring

/-- The aligned timestamp as an integer: the initial timestamp drops out. -/
theorem aligned_modEq (initialTimestamp : UInt32) {ticks ticks₀ clock clock₀ : Nat}
    (hlow : ((ticks₀ : Int) - clock₀) - (ticks - clock) ≤ 2)
    (hhigh : ((ticks : Int) - clock) - (ticks₀ - clock₀) ≤ 2) :
    ∃ d : Int, -2 ≤ d ∧ d ≤ 2
      ∧ Int.ModEq (2 ^ 32) (initialTimestamp + UInt32.ofNat ticks
          + (UInt32.ofNat clock₀ - (initialTimestamp + UInt32.ofNat ticks₀))).toNat
        (clock + d) := by
  refine ⟨(ticks - clock) - (ticks₀ - clock₀), by omega, by omega, ?_⟩
  simp only [Int.ModEq, UInt32.toNat_add, UInt32.toNat_sub, UInt32.toNat_ofNat']
  omega

/-- **The aligned timestamp of a slot**, with the alignment of any other. -/
theorem OfSlot.near {first queued : TransmitFrame × Nat} {index₀ index : Nat}
    (hfirst : OfSlot initialTimestamp startNs numerator denominator index₀ first)
    (h : OfSlot initialTimestamp startNs numerator denominator index queued)
    (hnum : 0 < numerator) (hstart : 0 < startNs)
    (hfits₀ : Fits c startNs numerator denominator index₀)
    (hfits : Fits c startNs numerator denominator index) :
    ∃ d : Int, -2 ≤ d ∧ d ≤ 2
      ∧ Int.ModEq (2 ^ 32) (queued.1.rtpTimestamp
          + (clockTimestamp (c.wallNs first) - first.1.rtpTimestamp)).toNat
        (wallTicks (c.wallNs queued) + d) := by
  have hclock₀ := wallTicks_cast (hfirst.wallNs_eq hstart hfits₀)
  have hclock := wallTicks_cast (h.wallNs_eq hstart hfits)
  have hticks₀ := ticks_cast index₀ numerator denominator
  have hticks := ticks_cast index numerator denominator
  have hdrift : ∀ A B : Int,
      (RoundedClock.ticks 90000 numerator A - RoundedClock.clockAt 90000 1000000000
          (c.wallReferenceNs + startNs - c.qpcReferenceNs
            + RoundedClock.eventTime 1000000000 numerator A))
        - (RoundedClock.ticks 90000 numerator B - RoundedClock.clockAt 90000 1000000000
          (c.wallReferenceNs + startNs - c.qpcReferenceNs
            + RoundedClock.eventTime 1000000000 numerator B)) ≤ 2 := fun A B =>
    RoundedClock.ticks_sub_clockAt_le (by simp) (by simp) (by simp) (by omega) A B _
  have hhigh := hdrift (index * denominator) (index₀ * denominator)
  have hlow := hdrift (index₀ * denominator) (index * denominator)
  rw [← hclock, ← hclock₀, ← hticks, ← hticks₀] at hhigh hlow
  rw [h.rtpTimestamp, hfirst.rtpTimestamp, clockTimestamp_eq]
  exact aligned_modEq initialTimestamp hlow hhigh

end Slot

/-! ## Whole runs -/

/-- **One clock.** In every run, every report and its packets carry one instant. -/
theorem run_sameInstant (c : FrameTransmitter) (network : Network) (source : TestPatternSource)
    (first : Readings) (readings : List Readings) (bgraFrames : List BgraFrame)
    (initialTimestamp : UInt32) (frames : List (TransmitFrame × Nat))
    (hnum : source.fpsNumerator < 2 ^ 22) (hden : source.fpsDenominator < 2 ^ 10)
    (hnumPos : 0 < source.fpsNumerator) (hindex : source.frameIndex = 0)
    (hstart : 0 < first.startNs)
    (hsource : source.frames (first :: readings) = some bgraFrames)
    (hfits : ∀ bgra ∈ bgraFrames, Fits c first.startNs source.fpsNumerator
      source.fpsDenominator bgra.frameIndex)
    (hqueued : ∀ queued ∈ frames, ∃ bgra ∈ bgraFrames,
      queued.1.nominalTimeNs = bgra.nominalTimeNs
        ∧ rtpTimestampForFrame initialTimestamp bgra.frameIndex source.fpsNumerator
            source.fpsDenominator = some queued.1.rtpTimestamp)
    (hframes : ∀ queued ∈ frames, ∀ packet ∈ queued.1.rtpPackets, Packetized packet) :
    Traced (fun _ => SameInstant c) frames (c.run network {} frames) := by
  have htimeline := TestPatternSource.frames_nominalTimeNs hsource
    (fun reading hreading => by
      rw [if_pos hindex, ← Option.some.inj hreading]) hnum hden
    fun bgra hbgra => (hfits bgra hbgra).toTimelineFits
  have hslot : ∀ queued ∈ frames, ∃ index,
      OfSlot initialTimestamp first.startNs source.fpsNumerator source.fpsDenominator index queued
        ∧ Fits c first.startNs source.fpsNumerator source.fpsDenominator index := by
    intro queued hmem
    obtain ⟨bgra, hbgra, hnominal, htimestamp⟩ := hqueued queued hmem
    refine ⟨bgra.frameIndex, ⟨?_, ?_⟩, hfits bgra hbgra⟩
    · rw [hnominal, htimeline bgra hbgra]
    · exact rtpTimestampForFrame_eq htimestamp (hfits bgra hbgra).toTimelineFits
  cases frames with
  | nil => exact (run_traced c network [] 0 (by simp) hframes).mono (by simp)
  | cons head frames =>
    obtain ⟨index₀, hhead, hfits₀⟩ := hslot head List.mem_cons_self
    refine (run_traced c network (head :: frames)
      (clockTimestamp (c.wallNs head) - head.1.rtpTimestamp) ?_ hframes).mono ?_
    · intro queued hqueued
      rw [← Option.some.inj hqueued]
    · intro earlier queued group hmem hreport
      obtain ⟨index, hqueued, hfits⟩ := hslot queued hmem
      constructor
      case ptpSeconds => exact hreport.ptpSeconds
      case ptpNanoseconds => exact hreport.ptpNanoseconds
      case packets => exact hreport.rtpTimestamp
      case near =>
        rw [hreport.aligned]
        exact hhead.near hqueued hnumPos hstart hfits₀ hfits

/-- Two frames of a 30000/1001 Hz source that stalls after the first and skips four slots. -/
def framesStall : List (TransmitFrame × Nat) :=
  [(frame50 [[0x67, 1, 2], [0x68, 3]] 77 5000000000, 0),
   (frame50 [0x65 :: List.replicate 80 7] 15092 5166833333, 0)]

/-- The run ends without an exception: two reports, and one packet and three. -/
theorem run_sameInstant_stall :
    (transmitter50.run (fun _ => true) {} framesStall).toOption.map (fun w => w.sent.length)
        = some 6
      ∧ Traced (fun _ => SameInstant transmitter50) framesStall
        (transmitter50.run (fun _ => true) {} framesStall) := by
  refine ⟨by decide +kernel, ?_⟩
  refine run_sameInstant transmitter50 (fun _ => true)
    { fpsNumerator := 30000, fpsDenominator := 1001, startNs := 4000000000 }
    ⟨5000000000, 5000000700, 5000000900⟩ [⟨0, 5200000000, 5200000300⟩]
    [⟨0, 5000000000, 5000000900, 0⟩, ⟨5, 5166833333, 5200000300, 4⟩] 77 _
    (by decide) (by decide) (by decide) rfl (by decide) (by decide) ?_ ?_ ?_
  · intro bgra hbgra
    have hslots : bgra.frameIndex = 0 ∨ bgra.frameIndex = 5 := by
      simp only [List.mem_cons, List.not_mem_nil, or_false] at hbgra
      rcases hbgra with rfl | rfl
      · exact .inl rfl
      · exact .inr rfl
    rcases hslots with h | h
    · rw [h]
      exact ⟨⟨by decide, by decide⟩, by decide, by decide⟩
    · rw [h]
      exact ⟨⟨by decide, by decide⟩, by decide, by decide⟩
  · intro queued hqueued
    simp only [framesStall, List.mem_cons, List.not_mem_nil, or_false] at hqueued
    rcases hqueued with rfl | rfl
    · exact ⟨_, List.mem_cons_self, rfl, by decide⟩
    · exact ⟨_, List.mem_cons_of_mem _ List.mem_cons_self, rfl, by decide⟩
  · intro queued hqueued
    simp only [framesStall, List.mem_cons, List.not_mem_nil, or_false] at hqueued
    rcases hqueued with rfl | rfl <;> exact frame50_packetized _ _ _

end Ipmx.Sender.FrameTransmitter
