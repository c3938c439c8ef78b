/-
Ipmx.Timing.FrameTimelineTheorems — the frames of a test pattern source lie on
one timeline.

Whatever the clock readings, and however many slots a stall skips, the nominal
time of a frame is the floor of the exact start of its slot, counted from the
start time of the first call (`frames_nominalTimeNs`).
-/
import Ipmx.Timing.FrameTimeline

namespace Ipmx.Timing

open Ipmx.Lib

/-- The start of a slot: its exact time, rounded down. -/
def slotNs (startNs numerator denominator index : Nat) : Nat :=
  startNs + index * (1000000000 * denominator) / numerator

/-- The whole seconds of frames and the rest, divided apart, are divided together. -/
theorem div_mul_add_mod_mul_div (index scale : Nat) {numerator : Nat} (h : 0 < numerator) :
    index / numerator * scale + index % numerator * scale / numerator
      = index * scale / numerator := by
  have hsplit : index * scale
      = numerator * (index / numerator * scale) + index % numerator * scale := by
    rw [← Nat.mul_assoc, ← Nat.add_mul, Nat.div_add_mod]
  rw [hsplit, Nat.mul_add_div h]

/-- **A slot is on the timeline**, as long as its time fits 64 bits. -/
theorem selectFrameSlot_nominalNs {start now next numerator denominator : Nat} {slot : FrameSlot}
    (h : selectFrameSlot start now next numerator denominator = some slot)
    (hnum : numerator < 2 ^ 22) (hden : denominator < 2 ^ 10)
    (hfits : slotNs start numerator denominator slot.index < Word64.size) :
    slot.nominalNs = slotNs start numerator denominator slot.index := by
  unfold selectFrameSlot at h
  split at h
  · cases h
  · next hrate =>
    obtain rfl := Option.some.inj h
    have hpos : 0 < numerator := by omega
    have hscale : Word64.wrap (1000000000 * denominator) = 1000000000 * denominator :=
      Word64.wrap_of_lt (by simp only [Word64.size]; omega)
    simp only [hscale] at hfits ⊢
    generalize (if next < _ then _ else next) = index at hfits ⊢
    have hrest : Word64.wrap (index % numerator * (1000000000 * denominator))
        = index % numerator * (1000000000 * denominator) := by
      refine Word64.wrap_of_lt ?_
      calc index % numerator * (1000000000 * denominator)
          ≤ 2 ^ 22 * (1000000000 * 2 ^ 10) := by
            have hmod : index % numerator < numerator := Nat.mod_lt _ hpos
            exact Nat.mul_le_mul (by omega) (Nat.mul_le_mul_left _ hden.le)
        _ < Word64.size := by decide
    rw [hrest, Nat.add_assoc, div_mul_add_mod_mul_div _ _ hpos]
    exact Word64.wrap_of_lt hfits

/-- What a frame needs of the 64-bit range: its slot and its ticks fit. -/
structure TimelineFits (startNs numerator denominator index : Nat) : Prop where
  slot : slotNs startNs numerator denominator index < Word64.size
  ticks : index * 90000 * denominator + numerator / 2 < Word64.size

theorem TimelineFits.index_succ_lt {startNs numerator denominator index : Nat}
    (h : TimelineFits startNs numerator denominator index) (hden : 0 < denominator) :
    index + 1 < Word64.size := by
  have hticks := h.ticks
  have hle : index * 90000 * 1 ≤ index * 90000 * denominator := Nat.mul_le_mul_left _ hden
  simp only [Word64.size] at hticks ⊢
  omega

theorem rtpTimestampForFrame_eq {initialTimestamp timestamp : UInt32}
    {startNs index numerator denominator : Nat}
    (h : rtpTimestampForFrame initialTimestamp index numerator denominator = some timestamp)
    (hfits : TimelineFits startNs numerator denominator index) :
    timestamp = initialTimestamp
      + UInt32.ofNat ((index * 90000 * denominator + numerator / 2) / numerator) := by
  unfold rtpTimestampForFrame at h
  split at h
  · cases h
  · obtain rfl := Option.some.inj h
    rw [Word64.wrap_of_lt hfits.ticks]

namespace TestPatternSource

/-- One call: the frame is on the timeline of the start time in use, which stays. -/
theorem next_spec {s s' : TestPatternSource} {readings : Readings} {frame : BgraFrame}
    {startNs : Nat} (h : s.next readings = some (frame, s'))
    (hstart : (if s.frameIndex = 0 then readings.startNs else s.startNs) = startNs)
    (hnum : s.fpsNumerator < 2 ^ 22) (hden : s.fpsDenominator < 2 ^ 10)
    (hfits : TimelineFits startNs s.fpsNumerator s.fpsDenominator frame.frameIndex) :
    frame.nominalTimeNs = slotNs startNs s.fpsNumerator s.fpsDenominator frame.frameIndex
      ∧ s'.fpsNumerator = s.fpsNumerator ∧ s'.fpsDenominator = s.fpsDenominator
      ∧ s'.frameIndex ≠ 0 ∧ s'.startNs = startNs := by
  simp only [next, hstart] at h
  cases hslot : selectFrameSlot startNs readings.nowNs s.frameIndex s.fpsNumerator
      s.fpsDenominator with
  | none => rw [hslot] at h; cases h
  | some slot =>
    rw [hslot] at h
    cases h
    have hpos : 0 < s.fpsDenominator := by
      by_contra hzero
      rw [selectFrameSlot, if_pos (by omega)] at hslot
      cases hslot
    refine ⟨selectFrameSlot_nominalNs hslot hnum hden hfits.slot, rfl, rfl, ?_, rfl⟩
    rw [Word64.wrap_of_lt (hfits.index_succ_lt hpos)]
    exact Nat.succ_ne_zero _

theorem frames_cons {s : TestPatternSource} {readings : Readings} {rest : List Readings}
    {frames : List BgraFrame} (h : s.frames (readings :: rest) = some frames) :
    ∃ frame s' later, s.next readings = some (frame, s') ∧ s'.frames rest = some later
      ∧ frames = frame :: later := by
  rw [TestPatternSource.frames] at h
  split at h
  · cases h
  · next frame s' hnext =>
    split at h
    · cases h
    · next later hlater => exact ⟨frame, s', later, hnext, hlater, (Option.some.inj h).symm⟩

/-- **The frames of a run** are on the timeline that begins at the start time of its first
call. -/
theorem frames_nominalTimeNs {s : TestPatternSource} {readings : List Readings}
    {frames : List BgraFrame} {startNs : Nat} (h : s.frames readings = some frames)
    (hstart : ∀ first ∈ readings.head?,
      (if s.frameIndex = 0 then first.startNs else s.startNs) = startNs)
    (hnum : s.fpsNumerator < 2 ^ 22) (hden : s.fpsDenominator < 2 ^ 10)
    (hfits : ∀ frame ∈ frames,
      TimelineFits startNs s.fpsNumerator s.fpsDenominator frame.frameIndex) :
    ∀ frame ∈ frames, frame.nominalTimeNs
      = slotNs startNs s.fpsNumerator s.fpsDenominator frame.frameIndex := by
  induction readings generalizing s frames with
  | nil =>
    obtain rfl := Option.some.inj h
    simp
  | cons first readings ih =>
    obtain ⟨frame, s', later, hnext, hlater, rfl⟩ := frames_cons h
    obtain ⟨hframe, hnum', hden', hindex, hstart'⟩ :=
      next_spec hnext (hstart first rfl) hnum hden (hfits frame List.mem_cons_self)
    have hrest := ih hlater (fun _ _ => by rw [if_neg hindex, hstart'])
      (hnum' ▸ hnum) (hden' ▸ hden)
      (fun f hf => by rw [hnum', hden']; exact hfits f (List.mem_cons_of_mem _ hf))
    rw [hnum', hden'] at hrest
    intro f hf
    rcases List.mem_cons.mp hf with rfl | hf
    · exact hframe
    · exact hrest f hf

end TestPatternSource
end Ipmx.Timing
