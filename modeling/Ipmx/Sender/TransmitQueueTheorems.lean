/-
Ipmx.Sender.TransmitQueueTheorems — the queue of the transmitter loses,
duplicates and reorders nothing.

`step_cases` says once what a step can do. Two invariants are kept case by
case: `Sound` by every step, `Counted` by the steps between states whose frames
weigh less than `2 ^ 64` bytes. `run_nothingLost` reads the statements off
them.
-/
import Ipmx.Sender.TransmitQueue

namespace Ipmx.Sender.TransmitQueue

open Ipmx.Lib
open Rtp

variable {s next last : TransmitQueue} {events : List Event}

/-! ## What a step can do -/

/-- The state behind an accepted frame. -/
def accept (s : TransmitQueue) (frame : TransmitFrame) : TransmitQueue :=
  { s with
    queue := s.queue.push frame
    queuedBytes := Word64.saturatingAdd s.queuedBytes (acceptedBytes 0 frame.rtpPackets)
    maximumQueuedBytes := max s.maximumQueuedBytes
      (Word64.saturatingAdd s.queuedBytes (acceptedBytes 0 frame.rtpPackets))
    maximumQueueDepth := max s.maximumQueueDepth (s.queue.waiting.length + 1) }

/-- The ends of a step. -/
inductive Step (s : TransmitQueue) : TransmitQueue → Prop
  | refused : Step s s
  | accepted (frame : TransmitFrame) (herror : s.error = none) (hstopping : s.stopping = false)
      (hroom : s.queue.waiting.length < s.maximumQueuedFrames) : Step s (s.accept frame)
  | started (hphase : s.phase = .starting) : Step s { s with phase := .serving }
  | took (frame : TransmitFrame) (rest : List TransmitFrame) (hphase : s.phase = .serving)
      (hcurrent : s.queue.current = none) (hwaiting : s.queue.waiting = frame :: rest) :
      Step s { s with queue := s.queue.take frame rest }
  | stopped (hphase : s.phase = .serving) (hcurrent : s.queue.current = none)
      (hwaiting : s.queue.waiting = []) (hstopping : s.stopping = true) :
      Step s { s with phase := .leaving }
  | completed (frame : TransmitFrame) (hcurrent : s.queue.current = some frame) :
      Step s { s with
        queue := s.queue.finish frame
        queuedBytes := if takenBytes 0 frame.rtpPackets ≥ s.queuedBytes then 0
          else s.queuedBytes - takenBytes 0 frame.rtpPackets }
  | failed (frame : TransmitFrame) (what : String) (hcurrent : s.queue.current = some frame) :
      Step s { s with
        queue := s.queue.fail frame, error := some what, stopping := true, phase := .ended }
  | broke (what : String) (hcurrent : s.queue.current = none) (hphase : s.phase ≠ .ended) :
      Step s { s with error := some what, stopping := true, phase := .ended }
  | left (hphase : s.phase = .leaving) : Step s { s with phase := .ended }
  | closing : Step s { s with stopping := true, closed := true, closing := true }
  | closedAgain (hclosing : s.closing = false) (hclosed : s.closed = true) :
      Step s { s with closes := s.closes ++ [s.closeResult] }
  | closed (hphase : s.phase = .ended) :
      Step s { s with closing := false, closes := s.closes ++ [s.closeResult] }

theorem step_enqueue {frame : TransmitFrame} {result : Except String Unit}
    (h : s.enqueue frame = some (result, next)) :
    (∃ what, result = .error what ∧ next = s) ∨ (result = .ok () ∧ s.error = none
      ∧ s.stopping = false ∧ s.queue.waiting.length < s.maximumQueuedFrames
      ∧ next = s.accept frame) := by
  unfold enqueue at h
  split at h
  · next hready =>
    split at h
    · next what _ =>
      obtain ⟨rfl, rfl⟩ := Prod.mk.inj (Option.some.inj h)
      exact .inl ⟨what, rfl, rfl⟩
    · next herror =>
      split at h
      · obtain ⟨rfl, rfl⟩ := Prod.mk.inj (Option.some.inj h)
        exact .inl ⟨_, rfl, rfl⟩
      · next hstopping =>
        obtain ⟨rfl, rfl⟩ := Prod.mk.inj (Option.some.inj h)
        have hroom : s.queue.waiting.length < s.maximumQueuedFrames := by
          simpa [herror, hstopping] using hready
        exact .inr ⟨rfl, herror, by simpa using hstopping, hroom, rfl⟩
  · cases h

theorem step_pop (h : s.pop = some next) : Step s next := by
  unfold pop at h
  split at h
  · next hready =>
    obtain ⟨hphase, hcurrent⟩ := hready
    split at h
    · next hwaiting =>
      split at h
      · next hstopping =>
        obtain rfl := Option.some.inj h
        exact .stopped hphase hcurrent hwaiting hstopping
      · cases h
    · next frame rest hwaiting =>
      obtain rfl := Option.some.inj h
      exact .took frame rest hphase hcurrent hwaiting
  · cases h

theorem step_complete (h : s.complete = some next) : Step s next := by
  unfold complete at h
  split at h
  · cases h
  · next frame hcurrent =>
    obtain rfl := Option.some.inj h
    exact .completed frame hcurrent

theorem step_fail {what : String} (h : s.fail what = some next) : Step s next := by
  unfold fail at h
  split at h
  · next frame hcurrent =>
    obtain rfl := Option.some.inj h
    exact .failed frame what hcurrent
  · next hcurrent =>
    split at h
    · next hphase =>
      obtain rfl := Option.some.inj h
      refine .broke what hcurrent ?_
      rcases hphase with hphase | hphase <;> simp [hphase]
    · cases h

theorem step_closeBegin (h : s.closeBegin = some next) : Step s next := by
  unfold closeBegin at h
  split at h
  · cases h
  · next hclosing =>
    split at h
    · next hclosed =>
      obtain rfl := Option.some.inj h
      exact .closedAgain (by simpa using hclosing) hclosed
    · obtain rfl := Option.some.inj h
      exact .closing

theorem step_cases {event : Event} (h : step s event = some next) : Step s next := by
  cases event with
  | enqueue frame =>
    obtain ⟨⟨result, _⟩, henqueue, rfl⟩ := Option.map_eq_some_iff.mp h
    rcases step_enqueue henqueue with ⟨_, _, rfl⟩ | ⟨_, herror, hstopping, hroom, rfl⟩
    · exact .refused
    · exact .accepted frame herror hstopping hroom
  | start =>
    obtain ⟨hphase, h⟩ := Option.ite_none_right_eq_some.mp h
    obtain rfl := Option.some.inj h
    exact .started hphase
  | pop => exact step_pop h
  | complete => exact step_complete h
  | fail what => exact step_fail h
  | leave =>
    obtain ⟨hphase, h⟩ := Option.ite_none_right_eq_some.mp h
    obtain rfl := Option.some.inj h
    exact .left hphase
  | closeBegin => exact step_closeBegin h
  | closeEnd =>
    obtain ⟨hready, h⟩ := Option.ite_none_right_eq_some.mp h
    obtain rfl := Option.some.inj h
    exact .closed hready.2

/-! ## The invariant of every step -/

structure Sound (s : TransmitQueue) : Prop where
  inOrder : s.queue.InOrder
  bounded : s.queue.waiting.length ≤ s.maximumQueuedFrames
  unfailed : s.error = none → s.queue.failed = none
  running : s.phase ≠ .ended → s.error = none
  inFlight : s.queue.current ≠ none → s.phase = .serving
  drained : s.phase = .leaving ∨ s.phase = .ended ∧ s.error = none →
    s.stopping = true ∧ s.queue.waiting = []
  halted : s.error ≠ none → s.stopping = true
  joined : s.closed = true → s.closing = false → s.phase = .ended
  returned : .ok () ∈ s.closes → s.phase = .ended ∧ s.error = none

theorem sound_init (maximumQueuedFrames : Nat) : Sound { maximumQueuedFrames } :=
  ⟨rfl, Nat.zero_le _, fun _ => rfl, fun _ => rfl, fun h => absurd rfl h, by simp,
    fun h => absurd rfl h, nofun, nofun⟩

namespace Sound

variable (h : Sound s)

include h

/-- A transmitter that has not stopped has a running worker. -/
theorem not_drained (hstopping : s.stopping = false) :
    ¬ (s.phase = .leaving ∨ s.phase = .ended ∧ s.error = none) := by
  intro hphase
  have hstopped := (h.drained hphase).1
  rw [hstopping] at hstopped
  cases hstopped

theorem serving_of_current {frame : TransmitFrame} (hcurrent : s.queue.current = some frame) :
    s.phase = .serving :=
  h.inFlight (by simp [hcurrent])

/-- The result of a `close` that finds the worker ended. -/
theorem returned_append (hphase : s.phase = .ended)
    (hclosed : .ok () ∈ s.closes ++ [s.closeResult]) : s.phase = .ended ∧ s.error = none := by
  rcases List.mem_append.mp hclosed with hbefore | hnow
  · exact h.returned hbefore
  · have hresult : s.closeResult = .ok () := (List.mem_singleton.mp hnow).symm
    unfold closeResult at hresult
    split at hresult
    · cases hresult
    · next herror => exact ⟨hphase, herror⟩

/-- While the worker runs no `close` has returned. -/
theorem not_returned (hphase : s.phase ≠ .ended) : .ok () ∉ s.closes := by
  intro hclosed
  exact hphase (h.returned hclosed).1

theorem accept (frame : TransmitFrame) (hstopping : s.stopping = false)
    (hroom : s.queue.waiting.length < s.maximumQueuedFrames) : Sound (s.accept frame) := by
  refine ⟨h.inOrder.push frame, ?_, h.unfailed, h.running, h.inFlight, ?_, h.halted, h.joined,
    h.returned⟩
  · simp only [TransmitQueue.accept, WorkQueue.push, List.length_append, List.length_singleton]
    exact hroom
  · intro hphase
    exact absurd hphase (h.not_drained hstopping)

theorem start (hphase : s.phase = .starting) : Sound { s with phase := .serving } := by
  have hrunning : s.phase ≠ .ended := by simp [hphase]
  refine ⟨h.inOrder, h.bounded, h.unfailed, fun _ => h.running hrunning, fun _ => rfl, by simp,
    h.halted, ?_, ?_⟩
  · intro hclosed hclosing
    exact absurd (h.joined hclosed hclosing) hrunning
  · intro hclosed
    exact absurd hclosed (h.not_returned hrunning)

theorem take {frame : TransmitFrame} {rest : List TransmitFrame} (hphase : s.phase = .serving)
    (hcurrent : s.queue.current = none) (hwaiting : s.queue.waiting = frame :: rest) :
    Sound { s with queue := s.queue.take frame rest } := by
  have hfailed := h.unfailed (h.running (by simp [hphase]))
  refine ⟨h.inOrder.take hfailed hcurrent hwaiting, ?_, h.unfailed, h.running, fun _ => hphase, ?_,
    h.halted, h.joined, h.returned⟩
  · have hbounded := h.bounded
    rw [hwaiting] at hbounded
    exact Nat.le_of_succ_le hbounded
  · simp [hphase]

theorem stop (hphase : s.phase = .serving) (hcurrent : s.queue.current = none)
    (hwaiting : s.queue.waiting = []) (hstopping : s.stopping = true) :
    Sound { s with phase := .leaving } := by
  have hrunning : s.phase ≠ .ended := by simp [hphase]
  refine ⟨h.inOrder, h.bounded, h.unfailed, fun _ => h.running hrunning, ?_, ?_, h.halted, ?_, ?_⟩
  · intro hflying
    exact absurd hcurrent hflying
  · intro _
    exact ⟨hstopping, hwaiting⟩
  · intro hclosed hclosing
    exact absurd (h.joined hclosed hclosing) hrunning
  · intro hclosed
    exact absurd hclosed (h.not_returned hrunning)

theorem finish {frame : TransmitFrame} (hcurrent : s.queue.current = some frame)
    (queuedBytes : Nat) : Sound { s with queue := s.queue.finish frame, queuedBytes } := by
  have hphase := h.serving_of_current hcurrent
  have hfailed := h.unfailed (h.running (by simp [hphase]))
  exact ⟨h.inOrder.finish hfailed hcurrent, h.bounded, h.unfailed, h.running,
    fun hflying => absurd rfl hflying, h.drained, h.halted, h.joined, h.returned⟩

theorem fail {frame : TransmitFrame} (what : String) (hcurrent : s.queue.current = some frame) :
    Sound { s with
      queue := s.queue.fail frame, error := some what, stopping := true, phase := .ended } := by
  have hrunning : s.phase ≠ .ended := by simp [h.serving_of_current hcurrent]
  have hfailed := h.unfailed (h.running hrunning)
  refine ⟨h.inOrder.fail hfailed hcurrent, h.bounded, nofun, fun hphase => absurd rfl hphase,
    fun hflying => absurd rfl hflying, by simp, fun _ => rfl, fun _ _ => rfl, ?_⟩
  intro hclosed
  exact absurd hclosed (h.not_returned hrunning)

theorem breakOff (what : String) (hcurrent : s.queue.current = none) (hphase : s.phase ≠ .ended) :
    Sound { s with error := some what, stopping := true, phase := .ended } := by
  refine ⟨h.inOrder, h.bounded, nofun, fun hphase => absurd rfl hphase,
    fun hflying => absurd hcurrent hflying, by simp, fun _ => rfl, fun _ _ => rfl, ?_⟩
  intro hclosed
  exact absurd hclosed (h.not_returned hphase)

theorem leave (hphase : s.phase = .leaving) : Sound { s with phase := .ended } := by
  have hrunning : s.phase ≠ .ended := by simp [hphase]
  refine ⟨h.inOrder, h.bounded, h.unfailed, fun hended => absurd rfl hended, ?_,
    fun _ => h.drained (.inl hphase), h.halted, fun _ _ => rfl, ?_⟩
  · intro hflying
    have hserving := h.inFlight hflying
    rw [hphase] at hserving
    cases hserving
  · intro hclosed
    exact absurd hclosed (h.not_returned hrunning)

theorem closeBegin : Sound { s with stopping := true, closed := true, closing := true } :=
  ⟨h.inOrder, h.bounded, h.unfailed, h.running, h.inFlight,
    fun hphase => ⟨rfl, (h.drained hphase).2⟩, fun _ => rfl, nofun, h.returned⟩

theorem closeAgain (hclosing : s.closing = false) (hclosed : s.closed = true) :
    Sound { s with closes := s.closes ++ [s.closeResult] } :=
  ⟨h.inOrder, h.bounded, h.unfailed, h.running, h.inFlight, h.drained, h.halted, h.joined,
    h.returned_append (h.joined hclosed hclosing)⟩

theorem closeEnd (hphase : s.phase = .ended) :
    Sound { s with closing := false, closes := s.closes ++ [s.closeResult] } :=
  ⟨h.inOrder, h.bounded, h.unfailed, h.running, h.inFlight, h.drained, h.halted,
    fun _ _ => hphase, h.returned_append hphase⟩

end Sound

theorem sound_step {event : Event} (hstep : step s event = some next) (h : Sound s) :
    Sound next := by
  cases step_cases hstep with
  | refused => exact h
  | accepted frame herror hstopping hroom => exact h.accept frame hstopping hroom
  | started hphase => exact h.start hphase
  | took frame rest hphase hcurrent hwaiting => exact h.take hphase hcurrent hwaiting
  | stopped hphase hcurrent hwaiting hstopping =>
    exact h.stop hphase hcurrent hwaiting hstopping
  | completed frame hcurrent => exact h.finish hcurrent _
  | failed frame what hcurrent => exact h.fail what hcurrent
  | broke what hcurrent hphase => exact h.breakOff what hcurrent hphase
  | left hphase => exact h.leave hphase
  | closing => exact h.closeBegin
  | closedAgain hclosing hclosed => exact h.closeAgain hclosing hclosed
  | closed hphase => exact h.closeEnd hphase

theorem sound_run {maximum : Nat} (hrun : run maximum events = some last) : Sound last :=
  Trace.run_invariant Sound (fun _ _ _ => sound_step) (sound_init maximum) hrun

/-! ## The byte count -/

/-- The bytes of the packets of a frame. -/
def frameSize (frame : TransmitFrame) : Nat := (frame.rtpPackets.map List.length).sum

theorem acceptedBytes_eq {packets : List Bytes} {total : Nat}
    (h : total + (packets.map List.length).sum < Word64.size) :
    acceptedBytes total packets = total + (packets.map List.length).sum := by
  induction packets generalizing total with
  | nil => rfl
  | cons packet packets ih =>
    rw [List.map_cons, List.sum_cons, ← Nat.add_assoc] at h ⊢
    have hfits : ¬ total > Word64.maximum - packet.length := by
      show ¬ total > Word64.size - 1 - packet.length
      omega
    rw [acceptedBytes, if_neg hfits, ih h]

theorem takenBytes_eq {packets : List Bytes} {total : Nat}
    (h : total + (packets.map List.length).sum < Word64.size) :
    takenBytes total packets = total + (packets.map List.length).sum := by
  induction packets generalizing total with
  | nil => rfl
  | cons packet packets ih =>
    rw [List.map_cons, List.sum_cons, ← Nat.add_assoc] at h ⊢
    rw [takenBytes, Word64.wrap_of_lt (by omega), ih h]

/-- The bytes of the frames in the queue, of the one in flight and of the one that failed. -/
def bytes (s : TransmitQueue) : Nat := s.queue.load frameSize

/-- The byte count is right, and it fits. -/
structure Counted (s : TransmitQueue) : Prop where
  exact : s.queuedBytes = s.bytes
  fits : s.bytes < Word64.size

theorem Counted.accept {frame : TransmitFrame} (h : Counted s)
    (hfits : (s.accept frame).bytes < Word64.size) : Counted (s.accept frame) := by
  have hbytes : (s.accept frame).bytes = s.bytes + frameSize frame :=
    WorkQueue.load_push frameSize frame
  refine ⟨?_, hfits⟩
  rw [hbytes] at hfits ⊢
  have hframe : acceptedBytes 0 frame.rtpPackets = frameSize frame := by
    rw [acceptedBytes_eq, Nat.zero_add]
    · rfl
    · rw [Nat.zero_add]
      exact lt_of_le_of_lt (Nat.le_add_left _ _) hfits
  show Word64.saturatingAdd s.queuedBytes _ = _
  rw [hframe, h.exact, Word64.saturatingAdd, if_neg]
  show ¬ s.bytes > Word64.size - 1 - frameSize frame
  omega

theorem Counted.finish {frame : TransmitFrame} (h : Counted s)
    (hcurrent : s.queue.current = some frame) :
    Counted { s with
      queue := s.queue.finish frame
      queuedBytes := if takenBytes 0 frame.rtpPackets ≥ s.queuedBytes then 0
        else s.queuedBytes - takenBytes 0 frame.rtpPackets } := by
  have hexact := h.exact
  have hfits := h.fits
  have hbytes : (s.queue.finish frame).load frameSize + frameSize frame = s.bytes :=
    WorkQueue.load_finish frameSize hcurrent
  have hframe : takenBytes 0 frame.rtpPackets = frameSize frame := by
    rw [takenBytes_eq, Nat.zero_add]
    · rfl
    · rw [Nat.zero_add]
      show frameSize frame < Word64.size
      omega
  constructor
  · show (if takenBytes 0 frame.rtpPackets ≥ s.queuedBytes then 0
      else s.queuedBytes - takenBytes 0 frame.rtpPackets) = (s.queue.finish frame).load frameSize
    rw [hframe]
    split <;> omega
  · show (s.queue.finish frame).load frameSize < Word64.size
    omega

theorem counted_step {event : Event} (hstep : step s event = some next)
    (hfits : next.bytes < Word64.size) (hsound : Sound s) (h : Counted s) : Counted next := by
  cases step_cases hstep with
  | accepted frame _ _ _ => exact h.accept hfits
  | took frame rest _ hcurrent hwaiting =>
    have hbytes := WorkQueue.load_take frameSize hcurrent hwaiting
    exact ⟨h.exact.trans hbytes.symm, hfits⟩
  | completed frame hcurrent => exact h.finish hcurrent
  | failed frame what hcurrent =>
    have hrunning : s.phase ≠ .ended := by simp [hsound.serving_of_current hcurrent]
    have hbytes :=
      WorkQueue.load_fail frameSize (hsound.unfailed (hsound.running hrunning)) hcurrent
    exact ⟨h.exact.trans hbytes.symm, hfits⟩
  | refused => exact h
  | started _ => exact ⟨h.exact, h.fits⟩
  | stopped _ _ _ _ => exact ⟨h.exact, h.fits⟩
  | broke _ _ _ => exact ⟨h.exact, h.fits⟩
  | left _ => exact ⟨h.exact, h.fits⟩
  | closing => exact ⟨h.exact, h.fits⟩
  | closedAgain _ _ => exact ⟨h.exact, h.fits⟩
  | closed _ => exact ⟨h.exact, h.fits⟩

/-! ## Runs -/

theorem maximumQueuedFrames_step {event : Event} (hstep : step s event = some next) :
    next.maximumQueuedFrames = s.maximumQueuedFrames := by
  cases step_cases hstep <;> rfl

theorem maximumQueuedFrames_run {maximum : Nat} (hrun : run maximum events = some last) :
    last.maximumQueuedFrames = maximum := by
  refine Trace.run_invariant (fun s => s.maximumQueuedFrames = maximum) ?_ rfl hrun
  intro s event next hstep hmaximum
  rw [maximumQueuedFrames_step hstep, hmaximum]

/-- In a run whose frames always weigh less than `2 ^ 64` bytes the byte count is right. -/
theorem counted_run {maximum : Nat} (hrun : run maximum events = some last)
    (hfits : Trace.Throughout step (fun s => s.bytes < Word64.size)
      { maximumQueuedFrames := maximum } events) : Counted last := by
  have hboth : Sound last ∧ Counted last := by
    refine Trace.run_invariant_throughout (fun s => Sound s ∧ Counted s)
      (fun s => s.bytes < Word64.size) ?_ ⟨sound_init maximum, rfl, ?_⟩ hfits hrun
    · intro s event next hstep hnext hs
      exact ⟨sound_step hstep hs.1, counted_step hstep hnext hs.1 hs.2⟩
    · exact hfits.head
  exact hboth.2

/-- A transmitter that has stopped accepts nothing more, and stays stopped. -/
theorem accepted_step {event : Event} (hstep : step s event = some next)
    (hstopping : s.stopping = true) :
    next.stopping = true ∧ next.queue.accepted = s.queue.accepted := by
  cases step_cases hstep with
  | accepted frame _ hrunning _ =>
    rw [hstopping] at hrunning
    cases hrunning
  | failed frame what _ => exact ⟨rfl, rfl⟩
  | broke what _ _ => exact ⟨rfl, rfl⟩
  | closing => exact ⟨rfl, rfl⟩
  | _ => exact ⟨hstopping, rfl⟩

theorem accepted_run (hstopping : s.stopping = true)
    (hrun : Trace.run step s events = some last) : last.queue.accepted = s.queue.accepted := by
  have hboth : last.stopping = true ∧ last.queue.accepted = s.queue.accepted := by
    refine Trace.run_invariant (fun middle => middle.stopping = true
      ∧ middle.queue.accepted = s.queue.accepted) ?_ ⟨hstopping, rfl⟩ hrun
    intro middle event next hstep hmiddle
    obtain ⟨hnext, haccepted⟩ := accepted_step hstep hmiddle.1
    exact ⟨hnext, haccepted.trans hmiddle.2⟩
  exact hboth.2

/-- What holds of the queue behind a run of some events. -/
structure NothingLost (maximum : Nat) (events : List Event) (s : TransmitQueue) : Prop where
  bounded : s.queue.waiting.length ≤ maximum
  /-- The frames taken are the first ones accepted, in their order; the others wait. -/
  inOrder : s.queue.taken ++ s.queue.waiting = s.queue.accepted
  /-- The queue, the frame in flight and, behind a failure, the frame it hit. -/
  counted : Trace.Throughout step (fun s => s.bytes < 2 ^ 64) { maximumQueuedFrames := maximum }
    events → s.queuedBytes = ((s.queue.failed.toList ++ (s.queue.current.toList
      ++ s.queue.waiting)).map frameSize).sum
  unfailed : s.error = none → s.queue.failed = none
  throws : ∀ frame what next, s.enqueue frame = some (.error what, next) → next = s
  stopped : s.stopping = true → ∀ more final, Trace.run step s more = some final →
    final.queue.accepted = s.queue.accepted
  returned : .ok () ∈ s.closes → s.queue.finished = s.queue.accepted

/-- In every interleaving the queue is bounded and in order, its byte count is right, a throwing
`enqueue` changes nothing, nothing is accepted behind a stop, and a `close` that returned
leaves every accepted frame sent once. -/
theorem run_nothingLost {maximum : Nat} (hrun : run maximum events = some last) :
    NothingLost maximum events last := by
  have h := sound_run hrun
  refine ⟨?_, h.inOrder, ?_, h.unfailed, ?_, ?_, ?_⟩
  · have hbounded := h.bounded
    rw [maximumQueuedFrames_run hrun] at hbounded
    exact hbounded
  · intro hfits
    exact (counted_run hrun hfits).exact
  · intro frame what next henqueue
    rcases step_enqueue henqueue with ⟨_, _, hsame⟩ | ⟨hok, _⟩
    · exact hsame
    · cases hok
  · intro hstopping more final hmore
    exact accepted_run hstopping hmore
  · intro hclosed
    obtain ⟨hphase, herror⟩ := h.returned hclosed
    have hcurrent : last.queue.current = none := by
      by_contra hflying
      have hserving := h.inFlight hflying
      rw [hphase] at hserving
      cases hserving
    exact h.inOrder.finished_eq (h.unfailed herror) hcurrent (h.drained (.inr ⟨hphase, herror⟩)).2

/-- A frame of one packet of 12 bytes. -/
def smallFrame : TransmitFrame := ⟨0, 0, [List.replicate 12 0], 0⟩

/-- Two frames, the second while the first is sent, and a clean close. -/
def cleanEvents : List Event :=
  [.start, .enqueue smallFrame, .pop, .enqueue smallFrame, .closeBegin, .complete, .pop,
   .complete, .pop, .leave, .closeEnd]

theorem run_nothingLost_clean :
    ∃ last, run 8 cleanEvents = some last ∧ NothingLost 8 cleanEvents last := by
  have hruns : (run 8 cleanEvents).isSome = true := by
    decide
  obtain ⟨last, hrun⟩ := Option.isSome_iff_exists.mp hruns
  exact ⟨last, hrun, run_nothingLost hrun⟩

/-- The worker fails on the only frame. -/
def failedEvents : List Event :=
  [.start, .enqueue smallFrame, .pop, .fail "sendto failed"]

/-- Behind a failure nothing is queued and nothing is in flight, and the byte count is not 0. -/
theorem run_failed :
    ∃ last, run 8 failedEvents = some last
      ∧ last.queuedBytes ≠ ((last.queue.current.toList ++ last.queue.waiting).map frameSize).sum := by
  have hruns : ((run 8 failedEvents).map fun last => (last.queuedBytes,
      ((last.queue.current.toList ++ last.queue.waiting).map frameSize).sum)) = some (12, 0) := by
    decide
  obtain ⟨last, hrun, hbytes⟩ := Option.map_eq_some_iff.mp hruns
  obtain ⟨hqueued, hframes⟩ := Prod.mk.inj hbytes
  refine ⟨last, hrun, ?_⟩
  rw [hqueued, hframes]
  decide

end Ipmx.Sender.TransmitQueue
