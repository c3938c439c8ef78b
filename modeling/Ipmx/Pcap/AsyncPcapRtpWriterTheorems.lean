/-
Ipmx.Pcap.AsyncPcapRtpWriterTheorems — which packets are lost silently.

`step_cases` says once what a step can do; the invariant `Sound` is kept case
by case, and `run_capture` reads the statements off it. A `close` that returns
means that every packet was written to the stream, not that it is in the file:
`run_unflushed` is a capture on a full disk that is closed without an error.
The drop counter has 64 bits: `run_wrapped` is the run in which it comes back to
zero. Nothing else is lost silently.
-/
import Ipmx.Pcap.AsyncPcapRtpWriter

namespace Ipmx.Pcap.AsyncPcapRtpWriter

open Ipmx.Lib

variable {s next last : AsyncPcapRtpWriter} {events : List Event}

/-! ## What a step can do -/

/-- The ends of a step. -/
inductive Step (s : AsyncPcapRtpWriter) : Event → AsyncPcapRtpWriter → Prop
  | unchanged (entry : Entry) : Step s (.enqueue entry) s
  | refused (entry : Entry) (herror : s.error = none) (hstopping : s.stopping = false)
      (hfull : s.entries.waiting.length ≥ maximumQueuedPackets) :
      Step s (.enqueue entry) { s with
        dropped := s.dropped + 1, passed := s.passed ++ [entry], refused := s.refused ++ [entry] }
  | accepted (entry : Entry) (herror : s.error = none) (hstopping : s.stopping = false)
      (hroom : s.entries.waiting.length < maximumQueuedPackets) :
      Step s (.enqueue entry)
        { s with entries := s.entries.push entry, passed := s.passed ++ [entry] }
  | took (entry : Entry) (rest : List Entry) (hrunning : s.workerRunning = true)
      (hcurrent : s.entries.current = none) (hwaiting : s.entries.waiting = entry :: rest) :
      Step s .pop { s with entries := s.entries.take entry rest }
  | left (hrunning : s.workerRunning = true) (hcurrent : s.entries.current = none)
      (hwaiting : s.entries.waiting = []) (hstopping : s.stopping = true) :
      Step s .pop { s with workerRunning := false }
  | wrote (entry : Entry) (taken : Nat) (hcurrent : s.entries.current = some entry) :
      Step s (.write none taken) { s with
        entries := s.entries.finish entry, output := (s.output.put entry).flush taken }
  | failed (entry : Entry) (what : String) (taken : Nat)
      (hcurrent : s.entries.current = some entry) :
      Step s (.write (some what) taken) { s with
        entries := s.entries.fail entry, output := s.output.flush taken
        error := some what, stopping := true, workerRunning := false }
  | closing : Step s .closeBegin { s with stopping := true, closing := true }
  | closed (hrunning : s.workerRunning = false) :
      Step s .closeEnd { s with closing := false, closes := s.closes ++ [s.closeResult] }
  | destroyed (taken : Nat) (hrunning : s.workerRunning = false) :
      Step s (.destroy taken) { s with output := s.output.flush taken, destroyed := true }

theorem step_enqueue (entry : Entry) : Step s (.enqueue entry) (s.enqueue entry).2 := by
  unfold enqueue
  split
  · exact .unchanged entry
  · next herror =>
    split
    · exact .unchanged entry
    · next hstopping =>
      have hstopping : s.stopping = false := by simpa using hstopping
      split
      · next hfull => exact .refused entry herror hstopping hfull
      · next hroom => exact .accepted entry herror hstopping (not_le.mp hroom)

theorem step_pop (h : s.pop = some next) : Step s .pop next := by
  unfold pop at h
  split at h
  · next hready =>
    obtain ⟨hrunning, hcurrent⟩ := hready
    split at h
    · next hwaiting =>
      split at h
      · next hstopping =>
        obtain rfl := Option.some.inj h
        exact .left hrunning hcurrent hwaiting hstopping
      · cases h
    · next entry rest hwaiting =>
      obtain rfl := Option.some.inj h
      exact .took entry rest hrunning hcurrent hwaiting
  · cases h

theorem step_write {failure : Option String} {taken : Nat}
    (h : s.write failure taken = some next) : Step s (.write failure taken) next := by
  unfold write at h
  split at h
  · cases h
  · next entry hcurrent =>
    split at h
    · cases h
    · obtain rfl := Option.some.inj h
      exact .wrote entry taken hcurrent
  · next entry what hcurrent =>
    obtain rfl := Option.some.inj h
    exact .failed entry what taken hcurrent

theorem step_destroy {taken : Nat} (h : s.destroy taken = some next) :
    Step s (.destroy taken) next := by
  obtain ⟨hjoined, h⟩ := Option.ite_none_left_eq_some.mp h
  obtain rfl := Option.some.inj h
  exact .destroyed taken (Bool.eq_false_iff.mpr fun hrunning => hjoined (.inr hrunning))

theorem step_cases {event : Event} (h : step s event = some next) :
    s.destroyed = false ∧ Step s event next := by
  obtain ⟨hdestroyed, h⟩ := Option.ite_none_left_eq_some.mp h
  refine ⟨Bool.eq_false_iff.mpr hdestroyed, ?_⟩
  cases event with
  | enqueue entry =>
    obtain rfl := Option.some.inj h
    exact step_enqueue entry
  | pop => exact step_pop h
  | write failure taken => exact step_write h
  | closeBegin =>
    obtain ⟨_, h⟩ := Option.ite_none_left_eq_some.mp h
    obtain rfl := Option.some.inj h
    exact .closing
  | closeEnd =>
    obtain ⟨hready, h⟩ := Option.ite_none_right_eq_some.mp h
    obtain rfl := Option.some.inj h
    exact .closed (by simpa using hready.2)
  | destroy taken => exact step_destroy h

/-! ## The invariant -/

structure Sound (s : AsyncPcapRtpWriter) : Prop where
  inOrder : s.entries.InOrder
  unfailed : s.error = none → s.entries.failed = none
  running : s.workerRunning = true → s.error = none
  joinable : s.workerRunning = false →
    s.entries.current = none ∧ s.stopping = true ∧ (s.error = none → s.entries.waiting = [])
  bounded : s.entries.waiting.length ≤ maximumQueuedPackets
  counted : s.dropped = UInt64.ofNat s.refused.length
  accepted : s.entries.accepted.Sublist s.passed
  length_passed : s.passed.length = s.entries.accepted.length + s.refused.length
  closed : .ok () ∈ s.closes → s.workerRunning = false ∧ s.error = none ∧ s.dropped = 0
  streamed : s.output.written = s.entries.finished

theorem sound_init : Sound {} :=
  ⟨rfl, fun _ => rfl, fun _ => rfl, nofun, Nat.zero_le _, rfl, .slnil, rfl, nofun, rfl⟩

namespace Sound

variable (h : Sound s)

include h

theorem running_of_not_stopping (hstopping : s.stopping = false) : s.workerRunning = true := by
  cases hrunning : s.workerRunning with
  | true => rfl
  | false =>
    have hstopped := (h.joinable hrunning).2.1
    rw [hstopping] at hstopped
    cases hstopped

theorem running_of_current {entry : Entry} (hcurrent : s.entries.current = some entry) :
    s.workerRunning = true := by
  cases hrunning : s.workerRunning with
  | true => rfl
  | false =>
    have hnone := (h.joinable hrunning).1
    rw [hcurrent] at hnone
    cases hnone

/-- Behind a `close` that returned the worker does not run. -/
theorem not_closed (hrunning : s.workerRunning = true) : .ok () ∉ s.closes := by
  intro hclosed
  have hstopped := (h.closed hclosed).1
  rw [hrunning] at hstopped
  cases hstopped

theorem refused (entry : Entry) (hstopping : s.stopping = false) :
    Sound { s with
      dropped := s.dropped + 1
      passed := s.passed ++ [entry]
      refused := s.refused ++ [entry] } := by
  have hrunning := h.running_of_not_stopping hstopping
  refine ⟨h.inOrder, h.unfailed, h.running, h.joinable, h.bounded, ?_, ?_, ?_, ?_, h.streamed⟩
  · simp [h.counted]
  · exact h.accepted.trans (List.sublist_append_left _ _)
  · simp [h.length_passed, Nat.add_assoc]
  · intro hclosed
    exact absurd hclosed (h.not_closed hrunning)

theorem push (entry : Entry) (hstopping : s.stopping = false)
    (hroom : s.entries.waiting.length < maximumQueuedPackets) :
    Sound { s with entries := s.entries.push entry, passed := s.passed ++ [entry] } := by
  have hrunning := h.running_of_not_stopping hstopping
  refine ⟨h.inOrder.push entry, h.unfailed, h.running, ?_, ?_, h.counted, ?_, ?_, h.closed,
    h.streamed⟩
  · intro hstopped
    rw [hrunning] at hstopped
    cases hstopped
  · simp only [WorkQueue.push, List.length_append, List.length_singleton]
    exact hroom
  · exact h.accepted.append (.refl _)
  · simp [WorkQueue.push, h.length_passed]
    omega

theorem take {entry : Entry} {rest : List Entry} (hrunning : s.workerRunning = true)
    (hcurrent : s.entries.current = none) (hwaiting : s.entries.waiting = entry :: rest) :
    Sound { s with entries := s.entries.take entry rest } := by
  have hfailed := h.unfailed (h.running hrunning)
  refine ⟨h.inOrder.take hfailed hcurrent hwaiting, h.unfailed, h.running, ?_, ?_, h.counted,
    h.accepted, h.length_passed, h.closed, h.streamed⟩
  · intro hstopped
    rw [hrunning] at hstopped
    cases hstopped
  · have hbounded := h.bounded
    rw [hwaiting] at hbounded
    exact Nat.le_of_succ_le hbounded

theorem leave (hrunning : s.workerRunning = true) (hcurrent : s.entries.current = none)
    (hwaiting : s.entries.waiting = []) (hstopping : s.stopping = true) :
    Sound { s with workerRunning := false } := by
  refine ⟨h.inOrder, h.unfailed, nofun, ?_, h.bounded, h.counted, h.accepted, h.length_passed, ?_,
    h.streamed⟩
  · intro _
    exact ⟨hcurrent, hstopping, fun _ => hwaiting⟩
  · intro hclosed
    exact absurd hclosed (h.not_closed hrunning)

theorem finish {entry : Entry} (taken : Nat) (hcurrent : s.entries.current = some entry) :
    Sound { s with
      entries := s.entries.finish entry, output := (s.output.put entry).flush taken } := by
  have hrunning := h.running_of_current hcurrent
  have hfailed := h.unfailed (h.running hrunning)
  refine ⟨h.inOrder.finish hfailed hcurrent, h.unfailed, h.running, ?_, h.bounded, h.counted,
    h.accepted, h.length_passed, h.closed, ?_⟩
  · intro hstopped
    rw [hrunning] at hstopped
    cases hstopped
  · show ((s.output.put entry).flush taken).written = s.entries.finished ++ [entry]
    rw [OutputStream.written_flush, OutputStream.written_put, h.streamed]

theorem fail {entry : Entry} (what : String) (taken : Nat)
    (hcurrent : s.entries.current = some entry) :
    Sound { s with
      entries := s.entries.fail entry, output := s.output.flush taken
      error := some what, stopping := true, workerRunning := false } := by
  have hrunning := h.running_of_current hcurrent
  have hfailed := h.unfailed (h.running hrunning)
  refine ⟨h.inOrder.fail hfailed hcurrent, nofun, nofun, fun _ => ⟨rfl, rfl, nofun⟩, h.bounded,
    h.counted, h.accepted, h.length_passed, ?_, (s.output.written_flush taken).trans h.streamed⟩
  intro hclosed
  exact absurd hclosed (h.not_closed hrunning)

theorem destroy (taken : Nat) :
    Sound { s with output := s.output.flush taken, destroyed := true } :=
  ⟨h.inOrder, h.unfailed, h.running, h.joinable, h.bounded, h.counted, h.accepted,
    h.length_passed, h.closed, (s.output.written_flush taken).trans h.streamed⟩

theorem closing : Sound { s with stopping := true, closing := true } :=
  ⟨h.inOrder, h.unfailed, h.running,
    fun hrunning => ⟨(h.joinable hrunning).1, rfl, (h.joinable hrunning).2.2⟩, h.bounded,
    h.counted, h.accepted, h.length_passed, h.closed, h.streamed⟩

theorem closeResult (hrunning : s.workerRunning = false) :
    Sound { s with closing := false, closes := s.closes ++ [s.closeResult] } := by
  refine ⟨h.inOrder, h.unfailed, h.running, h.joinable, h.bounded, h.counted, h.accepted,
    h.length_passed, ?_, h.streamed⟩
  intro hclosed
  rcases List.mem_append.mp hclosed with hbefore | hnow
  · exact h.closed hbefore
  · have hresult : s.closeResult = .ok () := (List.mem_singleton.mp hnow).symm
    unfold AsyncPcapRtpWriter.closeResult at hresult
    split at hresult
    · cases hresult
    · next herror =>
      split at hresult
      · cases hresult
      · next hdropped => exact ⟨hrunning, herror, not_not.mp hdropped⟩

end Sound

theorem sound_step {event : Event} (hstep : step s event = some next) (h : Sound s) :
    Sound next := by
  cases (step_cases hstep).2 with
  | unchanged entry => exact h
  | refused entry herror hstopping hfull => exact h.refused entry hstopping
  | accepted entry herror hstopping hroom => exact h.push entry hstopping hroom
  | took entry rest hrunning hcurrent hwaiting => exact h.take hrunning hcurrent hwaiting
  | left hrunning hcurrent hwaiting hstopping =>
    exact h.leave hrunning hcurrent hwaiting hstopping
  | wrote entry taken hcurrent => exact h.finish taken hcurrent
  | failed entry what taken hcurrent => exact h.fail what taken hcurrent
  | closing => exact h.closing
  | closed hrunning => exact h.closeResult hrunning
  | destroyed taken hrunning => exact h.destroy taken

theorem sound_run (hrun : run events = some last) : Sound last :=
  Trace.run_invariant Sound (fun _ _ _ => sound_step) sound_init hrun

/-! ## The capture -/

/-- With no packet refused, every packet that was passed was accepted. -/
theorem Sound.accepted_eq_passed (h : Sound s) (hrefused : s.refused = []) :
    s.entries.accepted = s.passed := by
  have hlength := h.length_passed
  rw [hrefused] at hlength
  exact h.accepted.eq_of_length hlength.symm

/-- With fewer than `2 ^ 64` packets refused, a counter at zero counts none. -/
theorem Sound.refused_eq_nil (h : Sound s) (hdropped : s.dropped = 0)
    (hfew : s.refused.length < 2 ^ 64) : s.refused = [] := by
  have hcounted := congrArg UInt64.toNat (h.counted.symm.trans hdropped)
  rw [UInt64.toNat_ofNat_of_lt' hfew] at hcounted
  exact List.length_eq_zero_iff.mp hcounted

/-- Behind a `close` that has returned, every packet that was passed has been written. -/
theorem Sound.finished_eq_passed (h : Sound s) (hclosed : .ok () ∈ s.closes)
    (hfew : s.refused.length < 2 ^ 64) : s.entries.finished = s.passed := by
  obtain ⟨hrunning, herror, hdropped⟩ := h.closed hclosed
  obtain ⟨hcurrent, _, hwaiting⟩ := h.joinable hrunning
  calc s.entries.finished
      = s.entries.accepted := h.inOrder.finished_eq (h.unfailed herror) hcurrent (hwaiting herror)
    _ = s.passed := h.accepted_eq_passed (h.refused_eq_nil hdropped hfew)

/-! ## No packet is lost silently -/

/-- A step loses no packet silently: the counter is not at its end when it counts a packet, and
the file takes what the stream holds when it is destroyed. -/
def Kept (s : AsyncPcapRtpWriter) : Event → Prop
  | .enqueue _ => s.error = none ∧ s.stopping = false
      ∧ s.entries.waiting.length ≥ maximumQueuedPackets → s.dropped ≠ 18446744073709551615
  | .destroy taken => s.output.buffer.length ≤ taken
  | _ => True

instance (s : AsyncPcapRtpWriter) : ∀ event, Decidable (Kept s event)
  | .enqueue _ => inferInstanceAs (Decidable (_ → _))
  | .destroy _ => inferInstanceAs (Decidable (_ ≤ _))
  | .pop | .write _ _ | .closeBegin | .closeEnd => inferInstanceAs (Decidable True)

/-- A count that is kept does not wrap. -/
theorem few_step {event : Event} (hstep : step s event = some next) (hkept : Kept s event)
    (h : Sound s) (hfew : s.refused.length < 2 ^ 64) : next.refused.length < 2 ^ 64 := by
  cases (step_cases hstep).2 with
  | refused entry herror hstopping hfull =>
    have hcount := hkept ⟨herror, hstopping, hfull⟩
    rw [h.counted] at hcount
    have hlast : s.refused.length ≠ 18446744073709551615 := fun hlength => hcount (hlength ▸ rfl)
    rw [List.length_append, List.length_singleton]
    omega
  | _ => exact hfew

theorem few_run (hrun : run events = some last) (hkept : Trace.EveryStep step Kept {} events) :
    last.refused.length < 2 ^ 64 := by
  refine (Trace.run_invariant_everyStep (fun s => Sound s ∧ s.refused.length < 2 ^ 64) ?_
    ⟨sound_init, by decide⟩ hkept hrun).2
  intro s event next hstep hevent hinv
  exact ⟨sound_step hstep hinv.1, few_step hstep hevent hinv.1 hinv.2⟩

/-- What the destructor leaves in the file. -/
structure Flushed (s : AsyncPcapRtpWriter) : Prop where
  sound : Sound s
  whole : s.destroyed = true → s.output.file = s.output.written

theorem flushed_step {event : Event} (hstep : step s event = some next) (hkept : Kept s event)
    (h : Flushed s) : Flushed next := by
  refine ⟨sound_step hstep h.sound, ?_⟩
  obtain ⟨hdestroyed, hnext⟩ := step_cases hstep
  intro hgone
  cases hnext with
  | destroyed taken hrunning =>
    show (s.output.flush taken).file = (s.output.flush taken).written
    rw [OutputStream.written_flush]
    exact (s.output.flush_file_eq_iff taken).mpr hkept
  | _ =>
    rw [hdestroyed] at hgone
    cases hgone

/-- A run that has lost nothing has lost nothing in any step. -/
theorem everyStep_kept (hrun : run events = some last) (hrefused : last.refused = [])
    (hwhole : last.destroyed = true → last.output.file = last.output.written) :
    Trace.EveryStep step Kept {} events := by
  have hhistory := Trace.run_history
    (fun past s => run past = some s ∧ Sound s ∧ (s.refused = [] →
      (s.destroyed = true → s.output.file = s.output.written) →
        Trace.EveryStep step Kept {} past)) ?_ ⟨rfl, sound_init, fun _ _ => trivial⟩ hrun
  · exact hhistory.2.2 hrefused hwhole
  rintro past s event next hstep ⟨hpast, hsound, hearlier⟩
  refine ⟨?_, sound_step hstep hsound, ?_⟩
  · rw [run, Trace.run_append_of_run hpast]
    exact (Trace.run_cons_of_step hstep []).trans rfl
  · intro hnone hfile
    obtain ⟨hdestroyed, hnext⟩ := step_cases hstep
    have hbefore : s.refused = [] := by
      cases hnext with
      | refused entry => exact absurd hnone (List.append_ne_nil_of_right_ne_nil _ (by simp))
      | _ => exact hnone
    have hkept : Kept s event := by
      cases hnext with
      | destroyed taken hrunning =>
        have hall := hfile rfl
        rw [OutputStream.written_flush] at hall
        exact (s.output.flush_file_eq_iff taken).mp hall
      | refused | accepted | unchanged =>
        intro _
        rw [hsound.counted, hbefore]
        decide
      | _ => exact trivial
    refine (hearlier hbefore fun hgone => ?_).append hpast ⟨hkept, fun _ _ => trivial⟩
    rw [hdestroyed] at hgone
    cases hgone

/-- What holds of the capture in every state of every run. -/
structure Capture (s : AsyncPcapRtpWriter) : Prop where
  inOrder : s.entries.failed = none →
    s.entries.finished ++ (s.entries.current.toList ++ s.entries.waiting) = s.entries.accepted
  inOrder_failed : s.entries.finished ++ (s.entries.failed.toList ++ s.entries.current.toList)
    ++ s.entries.waiting = s.entries.accepted
  bounded : s.entries.waiting.length ≤ 8192
  accepted : s.entries.accepted.Sublist s.passed
  length_passed : s.passed.length = s.entries.accepted.length + s.refused.length
  streamed : s.output.written = s.entries.finished

/-- Every packet that was refused is counted, and a `close` returns only if every packet that was
passed was written once, which is then in the file of a writer that is gone. Otherwise it
throws. -/
structure Reported (s : AsyncPcapRtpWriter) : Prop where
  counted : s.dropped.toNat = s.refused.length
  closed : .ok () ∈ s.closes → s.entries.finished = s.passed
  inFile : .ok () ∈ s.closes → s.destroyed = true → s.output.file = s.passed
  throws : ∀ next, s.step .closeEnd = some next → s.entries.finished ≠ s.passed →
    ∃ what, next.closes = s.closes ++ [.error what]

theorem Sound.capture (h : Sound s) : Capture s := by
  have horder := h.inOrder
  refine ⟨?_, horder, h.bounded, h.accepted, h.length_passed, h.streamed⟩
  intro hfailed
  unfold WorkQueue.InOrder WorkQueue.taken at horder
  rw [hfailed] at horder
  simpa using horder

theorem Flushed.reported (h : Flushed s) (hfew : s.refused.length < 2 ^ 64) : Reported s := by
  refine ⟨?_, ?_, ?_, ?_⟩
  · rw [h.sound.counted]
    exact UInt64.toNat_ofNat_of_lt' hfew
  · intro hclosed
    exact h.sound.finished_eq_passed hclosed hfew
  · intro hclosed hgone
    rw [h.whole hgone, h.sound.streamed]
    exact h.sound.finished_eq_passed hclosed hfew
  · intro next hstep hunwritten
    have hnext := sound_step hstep h.sound
    cases (step_cases hstep).2 with
    | closed hrunning =>
      cases hresult : s.closeResult with
      | error what => exact ⟨what, rfl⟩
      | ok _ =>
        have hclosed : .ok () ∈ s.closes ++ [s.closeResult] := by
          rw [hresult]
          exact List.mem_append_right _ List.mem_cons_self
        exact absurd (hnext.finished_eq_passed hclosed hfew) hunwritten

/-- In every interleaving the packets written, the one in flight and those in the queue are the
packets accepted. If every step keeps its packets, none is lost silently; and behind a `close`
that has returned, the file of a writer that is gone holds every packet only then. -/
theorem run_capture (hrun : run events = some last) :
    Capture last
      ∧ (Trace.EveryStep step Kept {} events → Reported last)
      ∧ (.ok () ∈ last.closes → last.destroyed = true → last.output.file = last.passed →
        Trace.EveryStep step Kept {} events) := by
  have hsound := sound_run hrun
  refine ⟨hsound.capture, ?_, ?_⟩
  · intro hkept
    have hflushed := Trace.run_invariant_everyStep Flushed
      (fun _ _ _ hstep hevent hinv => flushed_step hstep hevent hinv) ⟨sound_init, nofun⟩ hkept hrun
    exact hflushed.reported (few_run hrun hkept)
  · intro _ _ hfile
    have hprefix := last.output.file_prefix
    have hwritten : last.output.written.length ≤ last.entries.accepted.length := by
      rw [hsound.streamed, ← hsound.inOrder, WorkQueue.taken]
      simp only [List.length_append]
      omega
    have hfileLength := hprefix.length_le
    have hpassed := hsound.length_passed
    rw [hfile] at hfileLength
    refine everyStep_kept hrun (List.length_eq_zero_iff.mp (by omega)) fun _ => ?_
    exact hprefix.eq_of_length (by rw [hfile] at *; omega)

/-- Two packets, the second passed while the first is written, a clean close, and a destructor
that finds one record in the buffer. -/
def drainedEvents : List Event :=
  [.enqueue ⟨[1], 0, 0, 0⟩, .pop, .enqueue ⟨[2], 0, 0, 0⟩, .closeBegin, .write none 1, .pop,
   .write none 0, .pop, .closeEnd, .destroy 1]

theorem run_capture_drained : ∃ last, run drainedEvents = some last ∧ Reported last := by
  have hruns : (run drainedEvents).isSome = true := by
    decide
  obtain ⟨last, hrun⟩ := Option.isSome_iff_exists.mp hruns
  exact ⟨last, hrun, (run_capture hrun).2.1 (by decide)⟩

/-- A packet is captured on a disk that is full, and the capture is closed. -/
def fullDiskEvents : List Event :=
  [.enqueue ⟨[1], 0, 0, 0⟩, .pop, .write none 0, .closeBegin, .pop, .closeEnd, .destroy 0]

/-- The `close` returns, and the packet is not in the file. -/
theorem run_unflushed :
    ∃ last, run fullDiskEvents = some last ∧ .ok () ∈ last.closes ∧ last.destroyed = true
      ∧ last.passed = [⟨[1], 0, 0, 0⟩] ∧ last.output.file = [] := by
  have hruns : (run fullDiskEvents).any (fun last => decide (.ok () ∈ last.closes)
      && last.destroyed && last.passed = [⟨[1], 0, 0, 0⟩] && last.output.file = []) = true := by
    decide
  obtain ⟨last, hrun, hlast⟩ := (Option.any_eq_true _ _).mp hruns
  simp only [Bool.and_eq_true, decide_eq_true_eq] at hlast
  exact ⟨last, hrun, hlast.1.1.1, hlast.1.1.2, hlast.1.2, hlast.2⟩

/-! ## The counter that wraps -/

section Overflow

/-- A packet, as often as it is needed. -/
def packets (count : Nat) : List Entry := List.replicate count ⟨[], 0, 0, 0⟩

theorem packets_succ (count : Nat) : packets (count + 1) = packets count ++ [⟨[], 0, 0, 0⟩] :=
  List.replicate_succ'

/-- The writer with some packets in its queue. -/
def filled (count : Nat) : AsyncPcapRtpWriter :=
  { entries := { waiting := packets count, accepted := packets count }, passed := packets count }

/-- The writer with a full queue that has refused some packets. -/
def overfull (refusals : Nat) : AsyncPcapRtpWriter :=
  { filled maximumQueuedPackets with
    dropped := UInt64.ofNat refusals
    passed := packets (maximumQueuedPackets + refusals)
    refused := packets refusals }

/-- The same writer with some packets written. -/
def draining (refusals count : Nat) : AsyncPcapRtpWriter :=
  { overfull refusals with
    entries := { waiting := packets (maximumQueuedPackets - count)
                 accepted := packets maximumQueuedPackets, finished := packets count }
    output := { file := packets count } }

theorem run_filled (count : Nat) (h : count < maximumQueuedPackets) :
    Trace.run step (filled count) [.enqueue ⟨[], 0, 0, 0⟩] = some (filled (count + 1)) := by
  have hroom : ¬ (packets count).length ≥ maximumQueuedPackets := by
    rw [packets, List.length_replicate]
    omega
  show some (enqueue (filled count) _).2 = _
  simp only [enqueue, filled, hroom, if_false, Bool.false_eq_true, WorkQueue.push, packets_succ]

theorem run_overfull (refusals : Nat) :
    Trace.run step (overfull refusals) [.enqueue ⟨[], 0, 0, 0⟩]
      = some (overfull (refusals + 1)) := by
  have hfull : (packets maximumQueuedPackets).length ≥ maximumQueuedPackets := by
    rw [packets, List.length_replicate]
  show some (enqueue (overfull refusals) _).2 = _
  simp only [enqueue, overfull, filled, hfull, if_true, if_false, Bool.false_eq_true,
    packets_succ, ← Nat.add_assoc, UInt64.ofNat_add]
  rfl

theorem run_draining (refusals count : Nat) (h : count < maximumQueuedPackets) :
    Trace.run step (draining refusals count) [.pop, .write none 1]
      = some (draining refusals (count + 1)) := by
  have hleft : packets (maximumQueuedPackets - count)
      = ⟨[], 0, 0, 0⟩ :: packets (maximumQueuedPackets - (count + 1)) := by
    have hcount : maximumQueuedPackets - count = maximumQueuedPackets - (count + 1) + 1 := by
      omega
    rw [hcount]
    rfl
  have hpop : step (draining refusals count) .pop = some { draining refusals count with
      entries := { waiting := packets (maximumQueuedPackets - (count + 1))
                   current := some ⟨[], 0, 0, 0⟩
                   accepted := packets maximumQueuedPackets, finished := packets count } } := by
    simp only [step, pop, draining, overfull, filled, hleft]
    rfl
  rw [Trace.run_cons_of_step hpop]
  simp only [Trace.run, step, write, WorkQueue.finish, draining, packets_succ]
  rfl

/-- The queue is filled, some packets are refused, the queue is drained and closed. -/
def overflowEvents (refusals : Nat) : List Event :=
  (List.replicate maximumQueuedPackets [Event.enqueue ⟨[], 0, 0, 0⟩]).flatten
    ++ ((List.replicate refusals [Event.enqueue ⟨[], 0, 0, 0⟩]).flatten
    ++ ((List.replicate maximumQueuedPackets [Event.pop, .write none 1]).flatten
    ++ [.closeBegin, .pop, .closeEnd]))

theorem run_overflow (refusals : Nat) (hcount : UInt64.ofNat refusals = 0) :
    ∃ last, run (overflowEvents refusals) = some last ∧ last.closes = [.ok ()]
      ∧ last.entries.finished = packets maximumQueuedPackets
      ∧ last.passed = packets (maximumQueuedPackets + refusals) := by
  have hfill := Trace.run_blocks filled fun n hn => run_filled n hn
  have hrefuse := @Trace.run_blocks _ _ step _ overfull refusals fun n _ => run_overfull n
  have hdrain := Trace.run_blocks (draining refusals) fun n hn =>
    run_draining refusals n hn
  have hstart : filled maximumQueuedPackets = overfull 0 := rfl
  have hfull : overfull refusals = draining refusals 0 := by
    simp only [overfull, filled, draining, Nat.sub_zero, packets, List.replicate_zero]
  have hempty : packets (maximumQueuedPackets - maximumQueuedPackets) = [] := by
    rw [Nat.sub_self]
    rfl
  rw [hstart] at hfill
  rw [hfull] at hrefuse
  rw [run, overflowEvents]
  show ∃ last, Trace.run step (filled 0) _ = some last ∧ _
  rw [Trace.run_append_of_run hfill, Trace.run_append_of_run hrefuse,
    Trace.run_append_of_run hdrain]
  simp only [Trace.run, step, closeBegin, pop, closeEnd, closeResult, draining, overfull, filled,
    hempty, hcount]
  exact ⟨_, rfl, rfl, rfl, rfl⟩

/-- After `2 ^ 64` refusals the counter is zero again, and `close` returns. -/
theorem run_wrapped :
    ∃ last, run (overflowEvents (2 ^ 64)) = some last ∧ .ok () ∈ last.closes
      ∧ last.entries.finished ≠ last.passed := by
  obtain ⟨last, hrun, hcloses, hfinished, hpassed⟩ := run_overflow (2 ^ 64) rfl
  refine ⟨last, hrun, ?_, ?_⟩
  · rw [hcloses]
    exact List.mem_cons_self
  · intro heq
    have hlength := congrArg List.length heq
    rw [hfinished, hpassed, packets, packets, List.length_replicate, List.length_replicate]
      at hlength
    omega

end Overflow

end Ipmx.Pcap.AsyncPcapRtpWriter
