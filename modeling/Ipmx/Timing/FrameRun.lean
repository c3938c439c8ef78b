/-
Ipmx.Timing.FrameRun — every slot of the timeline is taken once or counted as
skipped.

The two floors of `select_frame_slot`, the slot of an instant and the start of
a slot, belong together: the slot of an instant starts at or before it, the next
one behind it (`latest_slot`), and the start of a slot belongs to no later one.
A run of `TestPatternSource::next` then counts (`frames_count`): each call moves
on by the slot it takes and the slots it skips.
-/
import Ipmx.Timing.FrameTimelineTheorems
import Mathlib.Data.List.Chain
import Mathlib.Tactic.Ring

namespace Ipmx.Timing

open Ipmx.Lib

/-! ## Slots and instants -/

/-- The last slot that starts at or before an instant this long after the start. -/
def latestSlot (elapsed numerator denominator : Nat) : Nat :=
  elapsed * numerator / (1000000000 * denominator)

section Rate

variable {numerator denominator : Nat}

/-- **The slot of an instant** starts at or before it, less than a frame period and a
nanosecond. -/
theorem slotNs_latestSlot (hnum : 0 < numerator) (hden : 0 < denominator) (startNs elapsed : Nat) :
    slotNs startNs numerator denominator (latestSlot elapsed numerator denominator)
        ≤ startNs + elapsed
      ∧ (startNs + elapsed
          - slotNs startNs numerator denominator (latestSlot elapsed numerator denominator))
            * numerator
          < 1000000000 * denominator + numerator := by
  have hscale : 0 < 1000000000 * denominator := by omega
  unfold slotNs latestSlot
  generalize 1000000000 * denominator = scale at *
  have hstarts : elapsed * numerator / scale * scale ≤ elapsed * numerator :=
    Nat.div_mul_le_self _ _
  have hnext : elapsed * numerator < elapsed * numerator / scale * scale + scale :=
    Nat.lt_div_mul_add hscale
  generalize elapsed * numerator / scale * scale = exact at *
  have hfloor : exact / numerator * numerator ≤ exact := Nat.div_mul_le_self _ _
  have hceil : exact < exact / numerator * numerator + numerator := Nat.lt_div_mul_add hnum
  have hle : exact / numerator ≤ elapsed :=
    Nat.le_of_mul_le_mul_right (hfloor.trans hstarts) hnum
  refine ⟨Nat.add_le_add_left hle _, ?_⟩
  rw [Nat.add_sub_add_left, Nat.sub_mul]
  omega

/-- The start of a slot belongs to no later slot. -/
theorem latestSlot_slotNs (index : Nat) :
    latestSlot (index * (1000000000 * denominator) / numerator) numerator denominator ≤ index := by
  refine Nat.div_le_of_le_mul ?_
  calc index * (1000000000 * denominator) / numerator * numerator
      ≤ index * (1000000000 * denominator) := Nat.div_mul_le_self _ _
    _ = 1000000000 * denominator * index := Nat.mul_comm _ _

/-- The split quotient of the source is the slot, and no word overflows. -/
theorem wrap_latestSlot (hnum : numerator < 2 ^ 22) (hden : 0 < denominator)
    (hden' : denominator < 2 ^ 10) {elapsed : Nat} (h : elapsed < Word64.size) :
    Word64.wrap (Word64.wrap (elapsed / (1000000000 * denominator) * numerator)
        + Word64.wrap (elapsed % (1000000000 * denominator) * numerator)
          / (1000000000 * denominator))
      = latestSlot elapsed numerator denominator := by
  have hscale : numerator ≤ 1000000000 * denominator := by omega
  have hpos : 0 < 1000000000 * denominator := by omega
  have hwhole : elapsed / (1000000000 * denominator) * numerator ≤ elapsed :=
    (Nat.mul_le_mul_left _ hscale).trans (Nat.div_mul_le_self _ _)
  have hrest : elapsed % (1000000000 * denominator) * numerator < Word64.size := by
    calc elapsed % (1000000000 * denominator) * numerator
        ≤ (1000000000 * 2 ^ 10) * 2 ^ 22 := by
          have hmod : elapsed % (1000000000 * denominator) < 1000000000 * denominator :=
            Nat.mod_lt _ hpos
          exact Nat.mul_le_mul (by omega) hnum.le
      _ < Word64.size := by decide
  have hslot : elapsed * numerator / (1000000000 * denominator) ≤ elapsed :=
    Nat.div_le_of_le_mul (by rw [Nat.mul_comm]; exact Nat.mul_le_mul_right _ hscale)
  rw [Word64.wrap_of_lt (lt_of_le_of_lt hwhole h), Word64.wrap_of_lt hrest,
    div_mul_add_mod_mul_div _ _ hpos]
  exact Word64.wrap_of_lt (lt_of_le_of_lt hslot h)

/-! ## `select_frame_slot` -/

/-- What is selected: the slot of the instant, or the next one if that is later. -/
theorem selectFrameSlot_spec (hnum : 0 < numerator) (hnum' : numerator < 2 ^ 22)
    (hden : 0 < denominator) (hden' : denominator < 2 ^ 10) (start : Nat) {now : Nat} (next : Nat)
    (hnow : now < Word64.size) :
    ∃ slot, selectFrameSlot start now next numerator denominator = some slot
      ∧ slot.index = max next (latestSlot (now - start) numerator denominator)
      ∧ slot.skipped = slot.index - next := by
  have helapsed : (if now > start then now - start else 0) = now - start := by
    split <;> omega
  have hscale : Word64.wrap (1000000000 * denominator) = 1000000000 * denominator :=
    Word64.wrap_of_lt (by simp only [Word64.size]; omega)
  have hlatest := wrap_latestSlot hnum' hden hden' (lt_of_le_of_lt (Nat.sub_le now start) hnow)
  rw [selectFrameSlot, if_neg (by omega)]
  simp only [helapsed, hscale, hlatest]
  refine ⟨_, rfl, ?_, rfl⟩
  split
  · next hlt => exact (max_eq_right hlt.le).symm
  · next hge => exact (max_eq_left (Nat.not_lt.mp hge)).symm

/-- **A selected slot is exact.** It is on the timeline; if slots were skipped for it, it is
the one running; and at its start the next one is selected. -/
theorem selectFrameSlot_exact (hnum : 0 < numerator) (hnum' : numerator < 2 ^ 22)
    (hden : 0 < denominator) (hden' : denominator < 2 ^ 10) (start : Nat) {now : Nat} (next : Nat)
    (hnow : now < Word64.size) :
    ∃ slot, selectFrameSlot start now next numerator denominator = some slot
      ∧ next ≤ slot.index ∧ slot.skipped = slot.index - next
      ∧ (slotNs start numerator denominator slot.index < Word64.size →
        slot.nominalNs = slotNs start numerator denominator slot.index
          ∧ (next < slot.index → slot.nominalNs ≤ now
            ∧ (now - slot.nominalNs) * numerator < 1000000000 * denominator + numerator)
          ∧ ∃ again,
              selectFrameSlot start slot.nominalNs (slot.index + 1) numerator denominator
                  = some again
                ∧ again.index = slot.index + 1 ∧ again.skipped = 0) := by
  obtain ⟨slot, hslot, hindex, hskipped⟩ :=
    selectFrameSlot_spec hnum hnum' hden hden' start next hnow
  refine ⟨slot, hslot, by omega, hskipped, ?_⟩
  intro hfits
  have hnominal := selectFrameSlot_nominalNs hslot hnum' hden' hfits
  refine ⟨hnominal, ?_, ?_⟩
  · intro hlater
    have hlatest : slot.index = latestSlot (now - start) numerator denominator := by omega
    have hstarted : start < now := by
      by_contra hbefore
      rw [Nat.sub_eq_zero_of_le (Nat.not_lt.mp hbefore), latestSlot, Nat.zero_mul,
        Nat.zero_div] at hlatest
      omega
    have hrunning := slotNs_latestSlot hnum hden start (now - start)
    rw [Nat.add_sub_cancel' hstarted.le, ← hlatest, ← hnominal] at hrunning
    exact hrunning
  · rw [← hnominal] at hfits
    obtain ⟨again, hagain, hindex', hskipped'⟩ :=
      selectFrameSlot_spec hnum hnum' hden hden' start (slot.index + 1) hfits
    have hbefore : latestSlot (slot.nominalNs - start) numerator denominator ≤ slot.index := by
      rw [hnominal, slotNs, Nat.add_sub_cancel_left]
      exact latestSlot_slotNs slot.index
    exact ⟨again, hagain, by omega, by omega⟩

/-- A slot whose start fits has a next one. -/
theorem succ_lt_of_slotNs_lt (hnum : 0 < numerator) (hnum' : numerator < 2 ^ 22)
    (hden : 0 < denominator) {startNs index : Nat}
    (h : slotNs startNs numerator denominator index < Word64.size) :
    index + 1 < Word64.size := by
  have htwice : index * 2 ≤ index * (1000000000 * denominator) / numerator := by
    rw [Nat.le_div_iff_mul_le hnum, Nat.mul_assoc]
    exact Nat.mul_le_mul_left _ (by omega)
  rw [slotNs] at h
  simp only [Word64.size] at h ⊢
  omega

/-- The index of such a slot is a positive 64-bit integer. -/
theorem lt_of_slotNs_lt (hnum : 0 < numerator) (hnum' : numerator < 2 ^ 22)
    (hden : 0 < denominator) {startNs index : Nat}
    (h : slotNs startNs numerator denominator index < Word64.size) : index < 2 ^ 63 := by
  have htwice : index * 2 ≤ index * (1000000000 * denominator) / numerator := by
    rw [Nat.le_div_iff_mul_le hnum, Nat.mul_assoc]
    exact Nat.mul_le_mul_left _ (by omega)
  rw [slotNs] at h
  simp only [Word64.size] at h
  omega

/-- Later slots start later. -/
theorem slotNs_mono (startNs numerator denominator : Nat) {i j : Nat} (h : i ≤ j) :
    slotNs startNs numerator denominator i ≤ slotNs startNs numerator denominator j :=
  Nat.add_le_add_left (Nat.div_le_div_right (Nat.mul_le_mul_right _ h)) _

end Rate

/-! ## A run of the source -/

namespace TestPatternSource

/-- A source with a frame rate has a frame for every call. -/
theorem exists_frames {s : TestPatternSource} (hnum : s.fpsNumerator ≠ 0)
    (hden : s.fpsDenominator ≠ 0) (readings : List Readings) :
    ∃ frames, s.frames readings = some frames := by
  induction readings generalizing s with
  | nil => exact ⟨[], rfl⟩
  | cons first readings ih =>
    have hnext : ∃ frame s', s.next first = some (frame, s')
        ∧ s'.fpsNumerator = s.fpsNumerator ∧ s'.fpsDenominator = s.fpsDenominator := by
      rw [TestPatternSource.next, selectFrameSlot, if_neg (not_or.mpr ⟨hnum, hden⟩)]
      exact ⟨_, _, rfl, rfl, rfl⟩
    obtain ⟨frame, s', hnext, hnum', hden'⟩ := hnext
    obtain ⟨frames, hframes⟩ := ih (hnum' ▸ hnum) (hden' ▸ hden)
    exact ⟨frame :: frames, by simp only [TestPatternSource.frames, hnext, hframes]⟩

/-- One call: the source moves on by the slot it takes and the slots it skips. -/
theorem next_counts {s s' : TestPatternSource} {readings : Readings} {frame : BgraFrame}
    {startNs : Nat} (h : s.next readings = some (frame, s'))
    (hstart : (if s.frameIndex = 0 then readings.startNs else s.startNs) = startNs)
    (hnum : 0 < s.fpsNumerator) (hnum' : s.fpsNumerator < 2 ^ 22)
    (hden : 0 < s.fpsDenominator) (hden' : s.fpsDenominator < 2 ^ 10)
    (hnow : readings.nowNs < Word64.size)
    (hfits : slotNs startNs s.fpsNumerator s.fpsDenominator frame.frameIndex < Word64.size) :
    frame.nominalTimeNs = slotNs startNs s.fpsNumerator s.fpsDenominator frame.frameIndex
      ∧ frame.frameIndex = s.frameIndex + frame.skippedIntervals
      ∧ s'.fpsNumerator = s.fpsNumerator ∧ s'.fpsDenominator = s.fpsDenominator
      ∧ s'.frameIndex = frame.frameIndex + 1 ∧ s'.startNs = startNs := by
  obtain ⟨slot, hslot, hle, hskipped, hexact⟩ :=
    selectFrameSlot_exact hnum hnum' hden hden' startNs s.frameIndex hnow
  rw [TestPatternSource.next, hstart, hslot] at h
  cases h
  refine ⟨(hexact hfits).1, ?_, rfl, rfl, ?_, rfl⟩
  · exact (by rw [hskipped, Nat.add_sub_cancel' hle])
  · exact Word64.wrap_of_lt (succ_lt_of_slotNs_lt hnum hnum' hden hfits)

/-- A run of calls: every frame is on the timeline, later ones in later slots, and the frames
and the skipped slots together are the slots up to the last frame. -/
theorem frames_count {s : TestPatternSource} {readings : List Readings} {frames : List BgraFrame}
    {startNs : Nat} (h : s.frames readings = some frames)
    (hstart : ∀ first ∈ readings.head?,
      (if s.frameIndex = 0 then first.startNs else s.startNs) = startNs)
    (hnum : 0 < s.fpsNumerator) (hnum' : s.fpsNumerator < 2 ^ 22)
    (hden : 0 < s.fpsDenominator) (hden' : s.fpsDenominator < 2 ^ 10)
    (hnow : ∀ r ∈ readings, r.nowNs < Word64.size)
    (hfits : ∀ f ∈ frames,
      slotNs startNs s.fpsNumerator s.fpsDenominator f.frameIndex < Word64.size) :
    (∀ f ∈ frames, s.frameIndex ≤ f.frameIndex
        ∧ f.nominalTimeNs = slotNs startNs s.fpsNumerator s.fpsDenominator f.frameIndex)
      ∧ frames.Pairwise (fun f g => f.frameIndex < g.frameIndex)
      ∧ ∀ last ∈ frames.getLast?,
        s.frameIndex + frames.length + (frames.map (·.skippedIntervals)).sum
          = last.frameIndex + 1 := by
  induction readings generalizing s frames with
  | nil =>
    obtain rfl := Option.some.inj h
    simp
  | cons first readings ih =>
    obtain ⟨frame, s', later, hnext, hlater, rfl⟩ := frames_cons h
    obtain ⟨hnominal, hindex, hnumEq, hdenEq, hindex', hstart'⟩ :=
      next_counts hnext (hstart first rfl) hnum hnum' hden hden' (hnow first List.mem_cons_self)
        (hfits frame List.mem_cons_self)
    obtain ⟨hall, hpairwise, hcount⟩ := ih hlater
      (fun _ _ => by rw [if_neg (by omega), hstart'])
      (hnumEq ▸ hnum) (hnumEq ▸ hnum') (hdenEq ▸ hden) (hdenEq ▸ hden')
      (fun r hr => hnow r (List.mem_cons_of_mem _ hr))
      (fun f hf => by rw [hnumEq, hdenEq]; exact hfits f (List.mem_cons_of_mem _ hf))
    rw [hnumEq, hdenEq] at hall
    refine ⟨?_, ?_, ?_⟩
    · intro f hf
      rcases List.mem_cons.mp hf with rfl | hf
      · exact ⟨by omega, hnominal⟩
      · have := (hall f hf).1
        exact ⟨by omega, (hall f hf).2⟩
    · refine List.pairwise_cons.mpr ⟨?_, hpairwise⟩
      intro f hf
      have := (hall f hf).1
      omega
    · intro last hlast
      rw [List.map_cons, List.sum_cons, List.length_cons]
      cases later with
      | nil =>
        obtain rfl : frame = last := by simpa using hlast
        simp only [List.length_nil, List.map_nil, List.sum_nil]
        omega
      | cons f later =>
        rw [List.getLast?_cons_cons] at hlast
        have := hcount last hlast
        omega

/-- The same from one frame to the next: the slots between them are those skipped. -/
theorem frames_chain {s : TestPatternSource} {readings : List Readings} {frames : List BgraFrame}
    {startNs : Nat} (h : s.frames readings = some frames)
    (hstart : ∀ first ∈ readings.head?,
      (if s.frameIndex = 0 then first.startNs else s.startNs) = startNs)
    (hnum : 0 < s.fpsNumerator) (hnum' : s.fpsNumerator < 2 ^ 22)
    (hden : 0 < s.fpsDenominator) (hden' : s.fpsDenominator < 2 ^ 10)
    (hnow : ∀ r ∈ readings, r.nowNs < Word64.size)
    (hfits : ∀ f ∈ frames,
      slotNs startNs s.fpsNumerator s.fpsDenominator f.frameIndex < Word64.size) :
    (∀ first ∈ frames.head?, first.frameIndex = s.frameIndex + first.skippedIntervals)
      ∧ frames.IsChain fun f g => g.frameIndex = f.frameIndex + 1 + g.skippedIntervals := by
  induction readings generalizing s frames with
  | nil =>
    obtain rfl := Option.some.inj h
    simp
  | cons first readings ih =>
    obtain ⟨frame, s', later, hnext, hlater, rfl⟩ := frames_cons h
    obtain ⟨_, hindex, hnumEq, hdenEq, hindex', hstart'⟩ :=
      next_counts hnext (hstart first rfl) hnum hnum' hden hden' (hnow first List.mem_cons_self)
        (hfits frame List.mem_cons_self)
    obtain ⟨hfirst, hchain⟩ := ih hlater
      (fun _ _ => by rw [if_neg (by omega), hstart'])
      (hnumEq ▸ hnum) (hnumEq ▸ hnum') (hdenEq ▸ hden) (hdenEq ▸ hden')
      (fun r hr => hnow r (List.mem_cons_of_mem _ hr))
      (fun f hf => by rw [hnumEq, hdenEq]; exact hfits f (List.mem_cons_of_mem _ hf))
    refine ⟨fun f hf => Option.some.inj hf ▸ hindex, hchain.cons ?_⟩
    intro g hg
    rw [hfirst g hg, hindex']

end TestPatternSource

/-- **The frame timeline is exact and counts every slot once.** Every selected slot is exact,
and a run of a new source, whatever the clock says, takes or counts as skipped every slot up
to its last frame. -/
theorem frameTimeline_exact {numerator denominator : Nat} (hnum : 0 < numerator)
    (hnum' : numerator < 2 ^ 22) (hden : 0 < denominator) (hden' : denominator < 2 ^ 10) :
    (∀ start now next : Nat, now < Word64.size →
      ∃ slot, selectFrameSlot start now next numerator denominator = some slot
        ∧ next ≤ slot.index ∧ slot.skipped = slot.index - next
        ∧ (slotNs start numerator denominator slot.index < Word64.size →
          slot.nominalNs = slotNs start numerator denominator slot.index
            ∧ (next < slot.index → slot.nominalNs ≤ now
              ∧ (now - slot.nominalNs) * numerator < 1000000000 * denominator + numerator)
            ∧ ∃ again,
                selectFrameSlot start slot.nominalNs (slot.index + 1) numerator denominator
                    = some again
                  ∧ again.index = slot.index + 1 ∧ again.skipped = 0))
      ∧ ∀ (s : TestPatternSource) (readings : List Readings),
        s.fpsNumerator = numerator → s.fpsDenominator = denominator → s.frameIndex = 0 →
        (∀ r ∈ readings, r.nowNs < Word64.size) →
        ∃ frames, s.frames readings = some frames
          ∧ ((∀ first ∈ readings.head?, ∀ f ∈ frames,
              slotNs first.startNs numerator denominator f.frameIndex < Word64.size) →
            frames.Pairwise (fun f g => f.frameIndex < g.frameIndex)
              ∧ frames.Pairwise (fun f g => f.nominalTimeNs ≤ g.nominalTimeNs)
              ∧ ∀ last ∈ frames.getLast?,
                frames.length + (frames.map (·.skippedIntervals)).sum = last.frameIndex + 1) := by
  constructor
  · intro start now next hnow
    exact selectFrameSlot_exact hnum hnum' hden hden' start next hnow
  · rintro s readings rfl rfl hzero hnow
    obtain ⟨frames, hframes⟩ :=
      TestPatternSource.exists_frames hnum.ne' hden.ne' readings
    refine ⟨frames, hframes, ?_⟩
    intro hfits
    cases readings with
    | nil =>
      obtain rfl := Option.some.inj hframes
      simp
    | cons first readings =>
      have hstart : ∀ f ∈ (first :: readings).head?,
          (if s.frameIndex = 0 then f.startNs else s.startNs) = first.startNs := by
        intro f hf
        rw [if_pos hzero, Option.some.inj hf]
      obtain ⟨hall, hpairwise, hcount⟩ := TestPatternSource.frames_count hframes hstart hnum hnum'
        hden hden' hnow (hfits first rfl)
      refine ⟨hpairwise, ?_, ?_⟩
      · refine hpairwise.imp_of_mem ?_
        intro f g hf hg hless
        rw [(hall f hf).2, (hall g hg).2]
        exact slotNs_mono _ _ _ hless.le
      · rw [hzero, Nat.zero_add] at hcount
        exact hcount

/-- A source at 30000/1001 frames a second that is asked again after 100 ms. -/
theorem frameTimeline_exact_ntsc :
    ∃ frames,
      TestPatternSource.frames { fpsNumerator := 30000, fpsDenominator := 1001, startNs := 0 }
          [⟨1000, 1000, 1000⟩, ⟨0, 100001000, 100001000⟩] = some frames
        ∧ frames.map (·.frameIndex) = [0, 2]
        ∧ frames.length + (frames.map (·.skippedIntervals)).sum = 3 := by
  obtain ⟨frames, hframes, hcount⟩ :=
    (frameTimeline_exact (by decide) (by decide) (by decide) (by decide)).2
      { fpsNumerator := 30000, fpsDenominator := 1001, startNs := 0 }
      [⟨1000, 1000, 1000⟩, ⟨0, 100001000, 100001000⟩] rfl rfl rfl (by decide)
  have hrun : TestPatternSource.frames
      { fpsNumerator := 30000, fpsDenominator := 1001, startNs := 0 }
      [⟨1000, 1000, 1000⟩, ⟨0, 100001000, 100001000⟩]
        = some [⟨0, 1000, 1000, 0⟩, ⟨2, 66734333, 100001000, 1⟩] := by decide
  obtain rfl := Option.some.inj (hframes.symm.trans hrun)
  obtain ⟨_, _, htotal⟩ := hcount (by decide)
  exact ⟨_, hframes, rfl, htotal _ rfl⟩

end Ipmx.Timing
