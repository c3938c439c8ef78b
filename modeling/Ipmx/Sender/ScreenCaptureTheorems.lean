/-
Ipmx.Sender.ScreenCaptureTheorems — when screen capture keeps the media
timeline.

In every run the deadlines are those of one schedule: the frame of index `i` is
taken at the deadline of index `i` plus the deadlines passed over before it
(`Scheduled`, kept by `step_scheduled`), and no skipped interval is ever
reported. The timestamp counts frames only. So the timeline is kept where no
deadline is passed over and the truncation of the frame period has not added up
to a frame (`run_keepsTimeline`), and lost in a stall (`run_stall`).
-/
import Ipmx.Sender.ScreenCapture
import Mathlib.Tactic.Ring

namespace Ipmx.Sender

open Ipmx.Lib
open Timing

/-! ## One call -/

/-- The deadline loop stops at the first deadline behind the clock. -/
theorem advanceDeadline_eq {framePeriod : Nat} (hperiod : 0 < framePeriod) (now : Nat)
    (fuel deadline : Nat) (hfuel : now ≤ deadline + fuel) :
    advanceDeadline framePeriod now (fuel + 1) deadline
      = deadline + ((now - deadline) / framePeriod + 1) * framePeriod := by
  induction fuel generalizing deadline with
  | zero =>
    rw [advanceDeadline, if_neg (by omega), Nat.sub_eq_zero_of_le (by omega), Nat.zero_div]
    omega
  | succ fuel ih =>
    rw [advanceDeadline]
    split
    · next hpassed =>
      have hrest : now - deadline = now - (deadline + framePeriod) + framePeriod := by omega
      rw [ih _ (by omega), hrest, Nat.add_div_right _ hperiod]
      ring
    · next hbehind =>
      have hless : now - deadline < framePeriod := by omega
      rw [Nat.div_eq_of_lt hless]
      omega

namespace PrimaryMonitorSource

/-- A source has a frame rate and, at first, neither a deadline nor a frame. -/
theorem new?_fresh {fpsNumerator fpsDenominator : UInt32} {source : PrimaryMonitorSource}
    (h : new? fpsNumerator fpsDenominator = some source) :
    fpsNumerator ≠ 0 ∧ fpsDenominator ≠ 0 ∧ source.scheduleInitialized = false
      ∧ source.haveFrame = false := by
  unfold new? at h
  split at h
  · cases h
  · next hrate =>
    obtain ⟨hnum, hden⟩ := not_or.mp hrate
    obtain rfl := Option.some.inj h
    exact ⟨hnum, hden, rfl, rfl⟩

/-- What a call that returns a frame does. -/
theorem next_frame {s s' : PrimaryMonitorSource} {readings : ScreenReadings}
    {frame : MonitorFrame} (h : s.next readings = some (some frame, s')) :
    frame.skippedIntervals = 0 ∧ (frame.repeated = true → s.haveFrame = true)
      ∧ s'.framePeriod = s.framePeriod ∧ s'.scheduleInitialized = true
      ∧ s'.nextDeadline
        = s.deadline readings + (s.passedOver readings + 1) * s.framePeriod := by
  unfold next at h
  split at h
  · cases h
  · next hready =>
    split at h
    · cases h
    · cases h
      refine ⟨?_, ?_, rfl, rfl, advanceDeadline_eq s.framePeriod_pos _ _ _ (by omega)⟩
      · cases readings.captured <;> rfl
      · -- a frame is repeated only where there was one before
        intro hrepeated
        cases hcaptured : readings.captured with
        | some captureTimeNs => simp [hcaptured] at hrepeated
        | none => simpa [hcaptured] using hready

theorem next_nothing {s s' : PrimaryMonitorSource} {readings : ScreenReadings}
    (h : s.next readings = some (none, s')) : s' = s := by
  unfold next at h
  split at h
  · cases h
    rfl
  · split at h
    · cases h
    · cases h

end PrimaryMonitorSource

/-! ## One round of the loop -/

/-- The state of a run: frames and passed deadlines count on from the first deadline, and
nothing is reported as skipped. -/
structure Scheduled (session : ScreenSession) (framePeriod start : Nat) (loop : ScreenLoop) :
    Prop where
  period : loop.source.framePeriod = framePeriod
  index : loop.frameIndex = loop.sent.length
  skipped : loop.skippedIntervals = 0
  cached : loop.source.haveFrame = true → loop.cachedNv12 = true
  waiting : loop.source.scheduleInitialized = false → loop.sent = [] ∧ loop.passedOver = 0
  next : loop.source.scheduleInitialized = true →
    loop.source.nextDeadline = start + (loop.sent.length + loop.passedOver) * framePeriod
  sent : ∀ i frame, loop.sent[i]? = some frame →
    rtpTimestampForFrame session.initialTimestamp i session.fpsNumerator session.fpsDenominator
        = some frame.timestamp
      ∧ ∃ passed ≤ loop.passedOver, frame.deadlineNs = start + (i + passed) * framePeriod

/-- The deadline of the next frame. -/
theorem Scheduled.deadline_eq {session : ScreenSession} {framePeriod start : Nat}
    {loop : ScreenLoop} {readings : ScreenReadings}
    (hloop : Scheduled session framePeriod start loop)
    (hstart : loop.source.scheduleInitialized = false → start = readings.scheduleNs) :
    loop.source.deadline readings
      = start + (loop.sent.length + loop.passedOver) * framePeriod := by
  unfold PrimaryMonitorSource.deadline
  cases hscheduled : loop.source.scheduleInitialized with
  | false =>
    obtain ⟨hsent, hpassed⟩ := hloop.waiting hscheduled
    simp [hsent, hpassed, hstart hscheduled]
  | true => simpa using hloop.next hscheduled

/-- A frame stamped by its index and taken at its deadline joins those that were sent. -/
theorem Scheduled.sent_append {session : ScreenSession} {framePeriod start : Nat}
    {loop : ScreenLoop} (hloop : Scheduled session framePeriod start loop) {latest : SentFrame}
    (hstamp : rtpTimestampForFrame session.initialTimestamp loop.sent.length session.fpsNumerator
      session.fpsDenominator = some latest.timestamp)
    (hat : latest.deadlineNs = start + (loop.sent.length + loop.passedOver) * framePeriod)
    (passed i : Nat) (frame : SentFrame) (hframe : (loop.sent ++ [latest])[i]? = some frame) :
    rtpTimestampForFrame session.initialTimestamp i session.fpsNumerator session.fpsDenominator
        = some frame.timestamp
      ∧ ∃ before ≤ loop.passedOver + passed,
        frame.deadlineNs = start + (i + before) * framePeriod := by
  rcases Nat.lt_or_ge i loop.sent.length with hi | hi
  · rw [List.getElem?_append_left hi] at hframe
    obtain ⟨hstamp', before, hle, hat'⟩ := hloop.sent i frame hframe
    exact ⟨hstamp', before, Nat.le_add_right_of_le hle, hat'⟩
  · rw [List.getElem?_append_right hi] at hframe
    obtain ⟨hzero, rfl⟩ : i - loop.sent.length = 0 ∧ latest = frame := by
      simpa [List.getElem?_singleton] using hframe
    obtain rfl : i = loop.sent.length := by omega
    exact ⟨hstamp, loop.passedOver, Nat.le_add_right _ _, hat⟩

/-- **A round keeps the schedule**, once the first deadline is fixed. -/
theorem step_scheduled {session : ScreenSession} {framePeriod start : Nat}
    {loop loop' : ScreenLoop} {readings : ScreenReadings}
    (h : loop.step session readings = some loop')
    (hindex : loop.frameIndex + 1 < Word64.size)
    (hstart : loop.source.scheduleInitialized = false → start = readings.scheduleNs)
    (hloop : Scheduled session framePeriod start loop) :
    Scheduled session framePeriod start loop' := by
  unfold ScreenLoop.step at h
  split at h
  · cases h
  · next source hnext =>
    obtain rfl := PrimaryMonitorSource.next_nothing hnext
    cases h
    exact ⟨hloop.period, hloop.index, hloop.skipped, hloop.cached, hloop.waiting, hloop.next,
      hloop.sent⟩
  · next frame source hnext =>
    obtain ⟨hskipped, hrepeated, hperiod, hinit, hdeadline⟩ := PrimaryMonitorSource.next_frame hnext
    have htaken := hloop.deadline_eq hstart
    have hfresh : ¬ (frame.repeated = true ∧ ¬ loop.cachedNv12 = true) := by
      rintro ⟨hagain, hnone⟩
      exact hnone (hloop.cached (hrepeated hagain))
    rw [if_neg hfresh] at h
    split at h
    · cases h
    · next timestamp htimestamp =>
      cases h
      rw [hloop.period] at hperiod
      constructor
      · exact hperiod
      · rw [Word64.wrap_of_lt hindex, hloop.index, List.length_append, List.length_singleton]
      · rw [hloop.skipped, hskipped]
        rfl
      · intro _
        rfl
      · intro hwaiting
        exact absurd (hinit.symm.trans hwaiting) (by simp)
      · intro _
        simp only [hdeadline, htaken, hloop.period, List.length_append, List.length_singleton]
        ring
      · exact hloop.sent_append (by rw [← hloop.index]; exact htimestamp) htaken
          (loop.source.passedOver readings)

/-- A round sends at most one frame, and passes over what its call passes over. -/
theorem step_counts {session : ScreenSession} {loop loop' : ScreenLoop}
    {readings : ScreenReadings} (h : loop.step session readings = some loop') :
    loop'.sent.length ≤ loop.sent.length + 1
      ∧ loop'.passedOver ≤ loop.passedOver + loop.source.passedOver readings := by
  unfold ScreenLoop.step at h
  split at h
  · cases h
  · cases h
    exact ⟨Nat.le_succ _, Nat.le_add_right _ _⟩
  · split at h
    · cases h
      exact ⟨Nat.le_succ _, le_refl _⟩
    · split at h
      · cases h
      · cases h
        exact ⟨by simp, le_refl _⟩

/-! ## Timestamps and deadlines -/

theorem rtpTimestampForFrame_nearest {initialTimestamp timestamp : UInt32}
    {index numerator denominator : Nat}
    (h : rtpTimestampForFrame initialTimestamp index numerator denominator = some timestamp)
    (hticks : index * 90000 * denominator + numerator / 2 < Word64.size) :
    timestamp = initialTimestamp
      + UInt32.ofNat (RoundedClock.nearest (index * 90000 * denominator) numerator) := by
  unfold rtpTimestampForFrame at h
  split at h
  · cases h
  · obtain rfl := Option.some.inj h
    rw [Word64.wrap_of_lt hticks]
    rfl

/-- The ticks of a frame period cover it. -/
theorem le_periodTicks (session : ScreenSession) (hnum : 0 < session.fpsNumerator) :
    90000 * session.fpsDenominator ≤ session.periodTicks * session.fpsNumerator := by
  have hlt := Nat.lt_div_mul_add (a := 90000 * session.fpsDenominator + session.fpsNumerator - 1)
    hnum
  rw [ScreenSession.periodTicks]
  omega

/-- A frame with no deadline passed over in front of it is as far from the first one as its
deadline, as long as the truncation has not added up to a frame period. -/
theorem tracks_of_onSchedule {session : ScreenSession} {framePeriod start index : Nat}
    {first frame : SentFrame} (hnum : 0 < session.fpsNumerator)
    (hfirst : rtpTimestampForFrame session.initialTimestamp 0 session.fpsNumerator
      session.fpsDenominator = some first.timestamp)
    (hframe : rtpTimestampForFrame session.initialTimestamp index session.fpsNumerator
      session.fpsDenominator = some frame.timestamp)
    (hfirst' : first.deadlineNs = start)
    (hframe' : frame.deadlineNs = start + index * framePeriod)
    (hslow : index * (1000000000 * session.fpsDenominator)
      ≤ index * (framePeriod * session.fpsNumerator) + 1000000000 * session.fpsDenominator)
    (hfast : index * (framePeriod * session.fpsNumerator)
      ≤ index * (1000000000 * session.fpsDenominator) + 1000000000 * session.fpsDenominator)
    (hticks : index * 90000 * session.fpsDenominator + session.fpsNumerator / 2 < Word64.size) :
    session.Tracks first frame := by
  have hcover := le_periodTicks session hnum
  have hzero : first.timestamp = session.initialTimestamp := by
    have hnone : 0 * 90000 * session.fpsDenominator = 0 := by simp
    have hnearest : RoundedClock.nearest 0 session.fpsNumerator = 0 :=
      Nat.div_eq_of_lt (by omega)
    have hsmall : 0 * 90000 * session.fpsDenominator + session.fpsNumerator / 2 < Word64.size :=
      lt_of_le_of_lt (by rw [hnone, Nat.zero_add]; exact Nat.le_add_left _ _) hticks
    rw [rtpTimestampForFrame_nearest hfirst hsmall, hnone, hnearest]
    exact UInt32.add_zero _
  have helapsed : mediaTicks (frame.deadlineNs - first.deadlineNs)
      = RoundedClock.nearest (index * framePeriod * 90000) 1000000000 := by
    rw [hframe', hfirst', Nat.add_sub_cancel_left, mediaTicks]
  have hunit : 0 < 1000000000 := by norm_num
  rw [ScreenSession.Tracks, helapsed]
  generalize 1000000000 = unit at *
  have hle := RoundedClock.nearest_le_nearest_add (m := index * 90000 * session.fpsDenominator)
    (n := index * framePeriod * 90000) (c := session.periodTicks) hnum hunit
    (by nlinarith only [hslow, Nat.mul_le_mul_right unit hcover])
  have hge := RoundedClock.nearest_le_nearest_add (m := index * framePeriod * 90000)
    (n := index * 90000 * session.fpsDenominator) (c := session.periodTicks) hunit hnum
    (by nlinarith only [hfast, Nat.mul_le_mul_right unit hcover])
  refine ⟨_, ?_, hle, hge⟩
  rw [rtpTimestampForFrame_nearest hframe hticks, hzero, UInt32.add_comm, UInt32.add_sub_cancel]

/-! ## Runs -/

/-- What a run on time keeps. -/
structure KeptOnTime (session : ScreenSession) (framePeriod start : Nat) (loop : ScreenLoop) :
    Prop extends Scheduled session framePeriod start loop where
  passed : loop.passedOver = 0
  onTime : ∀ i < loop.sent.length,
    i * (1000000000 * session.fpsDenominator)
        ≤ i * (framePeriod * session.fpsNumerator) + 1000000000 * session.fpsDenominator
      ∧ i * (framePeriod * session.fpsNumerator)
        ≤ i * (1000000000 * session.fpsDenominator) + 1000000000 * session.fpsDenominator
      ∧ i * 90000 * session.fpsDenominator + session.fpsNumerator / 2 < Word64.size

/-- A call on time passes over no deadline. -/
theorem ScreenSession.OnTime.passedOver_eq_zero {session : ScreenSession} {loop : ScreenLoop}
    {readings : ScreenReadings} (h : session.OnTime loop readings) :
    loop.source.passedOver readings = 0 := by
  have hlate := h.prompt
  have hperiod := loop.source.framePeriod_pos
  rw [PrimaryMonitorSource.passedOver]
  exact Nat.div_eq_of_lt (by omega)

/-- The index of a frame whose ticks fit a machine word fits one too. -/
theorem ScreenSession.OnTime.frameIndex_lt {session : ScreenSession} {loop : ScreenLoop}
    {readings : ScreenReadings} (h : session.OnTime loop readings)
    (hden : 0 < session.fpsDenominator) : loop.frameIndex + 1 < Word64.size := by
  have hle : loop.frameIndex * 90000 * 1 ≤ loop.frameIndex * 90000 * session.fpsDenominator :=
    Nat.mul_le_mul_left _ hden
  have hticks := h.ticks
  simp only [Word64.size] at hticks ⊢
  omega

/-- **A round on time keeps it.** -/
theorem KeptOnTime.step {session : ScreenSession} {framePeriod start : Nat}
    {loop loop' : ScreenLoop} {readings : ScreenReadings} (hden : 0 < session.fpsDenominator)
    (h : loop.step session readings = some loop') (honTime : session.OnTime loop readings)
    (hloop : KeptOnTime session framePeriod start loop) :
    ∃ start', KeptOnTime session framePeriod start' loop' := by
  obtain ⟨hsent, hpassed⟩ := step_counts h
  have hprompt := honTime.passedOver_eq_zero
  have hindex := honTime.frameIndex_lt hden
  have honTime' : ∀ i < loop'.sent.length,
      i * (1000000000 * session.fpsDenominator)
          ≤ i * (framePeriod * session.fpsNumerator) + 1000000000 * session.fpsDenominator
        ∧ i * (framePeriod * session.fpsNumerator)
          ≤ i * (1000000000 * session.fpsDenominator) + 1000000000 * session.fpsDenominator
        ∧ i * 90000 * session.fpsDenominator + session.fpsNumerator / 2 < Word64.size := by
    intro i hi
    rcases Nat.lt_or_ge i loop.sent.length with hold | hnew
    · exact hloop.onTime i hold
    · obtain rfl : i = loop.frameIndex := by rw [hloop.index]; omega
      have hslow := honTime.slow
      have hfast := honTime.fast
      rw [hloop.period] at hslow hfast
      exact ⟨hslow, hfast, honTime.ticks⟩
  cases hscheduled : loop.source.scheduleInitialized with
  | true =>
    have hstep := step_scheduled h hindex (fun hnot => by rw [hscheduled] at hnot; cases hnot)
      hloop.toScheduled
    have hpassed' := hloop.passed
    exact ⟨start, { hstep with passed := by omega, onTime := honTime' }⟩
  | false =>
    -- the first call fixes the first deadline
    obtain ⟨hnone, _⟩ := hloop.waiting hscheduled
    have hrestart : Scheduled session framePeriod readings.scheduleNs loop :=
      { hloop.toScheduled with
        next := fun hnot => by rw [hscheduled] at hnot; cases hnot
        sent := by simp [hnone] }
    have hstep := step_scheduled h hindex (fun _ => rfl) hrestart
    have hpassed' := hloop.passed
    exact ⟨_, { hstep with passed := by omega, onTime := honTime' }⟩

/-- A run on time is on schedule, and none of its frames is late by a frame period. -/
theorem KeptOnTime.keepsTimeline {session : ScreenSession} {framePeriod start : Nat}
    {loop : ScreenLoop} (hnum : 0 < session.fpsNumerator)
    (h : KeptOnTime session framePeriod start loop) : KeepsTimeline session loop := by
  constructor
  · intro first hfirst frame hframe
    rw [List.head?_eq_getElem?] at hfirst
    obtain ⟨index, hindex⟩ := List.mem_iff_getElem?.mp hframe
    obtain ⟨hstampFirst, passed, hle, hatFirst⟩ := h.sent 0 first hfirst
    obtain ⟨hstamp, passed', hle', hat⟩ := h.sent index frame hindex
    obtain ⟨hslow, hfast, hticks⟩ :=
      h.onTime index (List.getElem?_eq_some_iff.mp hindex).1
    obtain rfl : passed = 0 := by have := h.passed; omega
    obtain rfl : passed' = 0 := by have := h.passed; omega
    exact tracks_of_onSchedule hnum hstampFirst hstamp (by simpa using hatFirst) hat hslow hfast
      hticks
  · rw [h.skipped, h.passed]

/-- **When screen capture keeps the media timeline.** In every run whose rounds are all on
time, the timestamps go with the deadlines and the skipped intervals are the deadlines passed
over. -/
theorem run_keepsTimeline {fpsNumerator fpsDenominator initialTimestamp : UInt32}
    {source : PrimaryMonitorSource}
    (hsource : PrimaryMonitorSource.new? fpsNumerator fpsDenominator = some source)
    {session : ScreenSession}
    (hsession : session = ⟨initialTimestamp, fpsNumerator.toNat, fpsDenominator.toNat⟩)
    {events : List ScreenReadings} {last : ScreenLoop}
    (hrun : Trace.run (ScreenLoop.step session) (.initial source) events = some last)
    (honTime : Trace.EveryStep (ScreenLoop.step session) session.OnTime (.initial source) events) :
    KeepsTimeline session last := by
  obtain ⟨hnum, hden, hwaiting, hnone⟩ := PrimaryMonitorSource.new?_fresh hsource
  have hnum : 0 < session.fpsNumerator := by
    rw [hsession]
    exact Nat.pos_of_ne_zero fun hzero => hnum (UInt32.toNat.inj hzero)
  have hden : 0 < session.fpsDenominator := by
    rw [hsession]
    exact Nat.pos_of_ne_zero fun hzero => hden (UInt32.toNat.inj hzero)
  have hinitial : KeptOnTime session source.framePeriod 0 (.initial source) :=
    { period := rfl
      index := rfl
      skipped := rfl
      cached := fun h => by rw [ScreenLoop.initial, hnone] at h; cases h
      waiting := fun _ => ⟨rfl, rfl⟩
      next := fun h => by rw [ScreenLoop.initial, hwaiting] at h; cases h
      sent := fun i frame h => by simp [ScreenLoop.initial] at h
      passed := rfl
      onTime := fun i h => absurd h (Nat.not_lt_zero i) }
  obtain ⟨start, hlast⟩ := Trace.run_invariant_everyStep
    (fun loop => ∃ start, KeptOnTime session source.framePeriod start loop)
    (fun loop readings loop' hstep hready ⟨start, hloop⟩ => hloop.step hden hstep hready)
    ⟨0, hinitial⟩ honTime hrun
  exact hlast.keepsTimeline hnum

/-- A monitor at 50 frames a second, whose second frame is a repeated one. -/
theorem run_keepsTimeline_promptly :
    ∃ source last, PrimaryMonitorSource.new? 50 1 = some source
      ∧ Trace.run (ScreenLoop.step ⟨7, 50, 1⟩) (.initial source)
          [⟨some 900, 1000, 1000, 0, 1200⟩, ⟨none, 0, 20001000, 20001010, 20001300⟩] = some last
      ∧ last.sent.length = 2 ∧ KeepsTimeline ⟨7, 50, 1⟩ last := by
  have hrun : ∃ source ∈ PrimaryMonitorSource.new? 50 1,
      ∃ last ∈ Trace.run (ScreenLoop.step ⟨7, 50, 1⟩) (.initial source)
          [⟨some 900, 1000, 1000, 0, 1200⟩, ⟨none, 0, 20001000, 20001010, 20001300⟩],
        last.sent.length = 2
          ∧ Trace.EveryStep (ScreenLoop.step ⟨7, 50, 1⟩) (ScreenSession.OnTime ⟨7, 50, 1⟩)
            (.initial source)
            [⟨some 900, 1000, 1000, 0, 1200⟩, ⟨none, 0, 20001000, 20001010, 20001300⟩] := by
    decide
  obtain ⟨source, hsource, last, hlast, htwo, honTime⟩ := hrun
  exact ⟨source, last, hsource, hlast, htwo, run_keepsTimeline hsource rfl hlast honTime⟩

/-- A stall of a second at 60 frames a second: the third frame is taken at the deadline of
index 61 and gets the timestamp of index 2, and nothing is reported. -/
theorem run_stall :
    ∃ source last, PrimaryMonitorSource.new? 60 1 = some source
      ∧ Trace.run (ScreenLoop.step ⟨7, 60, 1⟩) (.initial source)
          [⟨some 0, 0, 0, 0, 0⟩, ⟨some 0, 0, 1000000000, 0, 1000000000⟩,
           ⟨some 0, 0, 1016666626, 0, 1016666626⟩] = some last
      ∧ ¬ KeepsTimeline ⟨7, 60, 1⟩ last
      ∧ ¬ ∀ first ∈ last.sent.head?, ∀ frame ∈ last.sent,
          ScreenSession.Tracks ⟨7, 60, 1⟩ first frame := by
  have hrun : ∃ source ∈ PrimaryMonitorSource.new? 60 1,
      ∃ last ∈ Trace.run (ScreenLoop.step ⟨7, 60, 1⟩) (.initial source)
          [⟨some 0, 0, 0, 0, 0⟩, ⟨some 0, 0, 1000000000, 0, 1000000000⟩,
           ⟨some 0, 0, 1016666626, 0, 1016666626⟩],
        last.skippedIntervals = 0 ∧ last.passedOver = 59
          ∧ last.sent = [⟨7, 0, 0, 0⟩, ⟨1507, 0, 0, 16666666⟩, ⟨3007, 0, 0, 1016666626⟩] := by
    decide
  obtain ⟨source, hsource, last, hlast, hskipped, hpassed, hsent⟩ := hrun
  refine ⟨source, last, hsource, hlast, ?_, ?_⟩
  · intro h
    have := h.skipped
    omega
  · intro h
    rw [hsent] at h
    obtain ⟨ticks, hdiff, hle, hge⟩ :=
      h ⟨7, 0, 0, 0⟩ rfl ⟨3007, 0, 0, 1016666626⟩ (by simp)
    have helapsed : mediaTicks (1016666626 - 0) = 91500 := by decide
    have hperiod : ScreenSession.periodTicks ⟨7, 60, 1⟩ = 1500 := by decide
    have hticks : ticks % 2 ^ 32 = 3000 := (congrArg UInt32.toNat hdiff).symm
    rw [helapsed, hperiod] at hle hge
    omega

end Ipmx.Sender
