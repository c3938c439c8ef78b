/-
Ipmx.Sender.Recorder — the `pcap` of the transmitter's worker.

The worker is the one owner of an `AsyncPcapRtpWriter`: it enqueues what it has
sent, closes the writer behind its loop and destroys it. The thread of the writer
goes on meanwhile. What that thread does in front of each call, and what the file
takes of the stream, is the schedule of the recorder, so that a run for every
schedule is a run for every interleaving. Whatever the schedule, the recorder's
writer has had a run of `AsyncPcapRtpWriter` (`Recording`).
-/
import Ipmx.Lib.Check
import Ipmx.Pcap.AsyncPcapRtpWriterTheorems

namespace Ipmx.Sender

open Ipmx.Lib
open Pcap

/-- A step of the writer's thread. -/
inductive ThreadStep
  | pop
  | write (failure : Option String) (taken : Nat)
deriving DecidableEq, Repr

def ThreadStep.event : ThreadStep → AsyncPcapRtpWriter.Event
  | .pop => .pop
  | .write failure taken => .write failure taken

/-- What the thread does in front of each call, and what the file takes at the end. -/
structure CaptureSchedule where
  steps : List (List ThreadStep) := []
  lastTaken : Nat := 0
deriving DecidableEq, Repr

structure Recorder where
  writer : AsyncPcapRtpWriter := {}
  schedule : CaptureSchedule := {}
deriving DecidableEq, Repr

namespace Recorder

/-- A step that the thread cannot take is left out. -/
def goOn (s : AsyncPcapRtpWriter) (step : ThreadStep) : AsyncPcapRtpWriter :=
  (s.step step.event).getD s

/-- What the thread does in front of the next call. -/
def advance (r : Recorder) : Recorder where
  writer := (r.schedule.steps.headD []).foldl goOn r.writer
  schedule := { r.schedule with steps := r.schedule.steps.tail }

def enqueue (r : Recorder) (entry : Entry) : Except String Recorder :=
  match r.advance.writer.enqueue entry with
  | (.error what, _) => .error what
  | (.ok (), writer) => .ok { r.advance with writer }

/-- `close`. It is `none` while it waits for the thread. -/
def close (r : Recorder) : Option (Except String Recorder) := do
  let begun ← r.advance.writer.closeBegin
  let joining := advance { r.advance with writer := begun }
  let ended ← joining.writer.closeEnd
  return joining.writer.closeResult.map fun _ => { joining with writer := ended }

/-- The destructor, which closes the writer once more. -/
def destroy (r : Recorder) : Option Recorder :=
  (Trace.run AsyncPcapRtpWriter.step r.writer
    [.closeBegin, .closeEnd, .destroy r.schedule.lastTaken]).map fun writer => { r with writer }

/-! ## Runs -/

variable {r r' : Recorder} {s s' : AsyncPcapRtpWriter} {entries : List Entry}

/-- A writer that is in use, and has had a run in which it was passed these entries. -/
structure Recording (s : AsyncPcapRtpWriter) (entries : List Entry) : Prop where
  reached : ∃ events, AsyncPcapRtpWriter.run events = some s
  passed : s.passed = entries
  alive : s.destroyed = false

theorem recording_initial : Recording {} [] := ⟨⟨[], rfl⟩, rfl, rfl⟩

theorem reached_step {event : AsyncPcapRtpWriter.Event}
    (h : ∃ events, AsyncPcapRtpWriter.run events = some s) (hstep : s.step event = some s') :
    ∃ events, AsyncPcapRtpWriter.run events = some s' := by
  obtain ⟨events, hrun⟩ := h
  refine ⟨events ++ [event], ?_⟩
  rw [AsyncPcapRtpWriter.run, Trace.run_append_of_run hrun]
  exact Trace.run_cons_of_step hstep []

/-- The thread passes nothing to the writer, and does not destroy it. -/
theorem thread_frame {step : ThreadStep} (h : s.step step.event = some s') :
    s'.passed = s.passed ∧ s'.destroyed = s.destroyed := by
  have hnext := (AsyncPcapRtpWriter.step_cases h).2
  cases step with
  | pop =>
    cases hnext with
    | took => exact ⟨rfl, rfl⟩
    | left => exact ⟨rfl, rfl⟩
  | write failure taken =>
    cases hnext with
    | wrote => exact ⟨rfl, rfl⟩
    | failed => exact ⟨rfl, rfl⟩

theorem Recording.goOn (h : Recording s entries) (step : ThreadStep) :
    Recording (goOn s step) entries := by
  unfold Recorder.goOn
  cases hstep : s.step step.event with
  | none => exact h
  | some next =>
    obtain ⟨hpassed, hdestroyed⟩ := thread_frame hstep
    exact ⟨reached_step h.reached hstep, hpassed.trans h.passed, hdestroyed.trans h.alive⟩

theorem Recording.advance (h : Recording r.writer entries) :
    Recording r.advance.writer entries := by
  show Recording ((r.schedule.steps.headD []).foldl Recorder.goOn r.writer) entries
  generalize r.schedule.steps.headD [] = steps
  generalize r.writer = s at h
  induction steps generalizing s with
  | nil => exact h
  | cons step steps ih => exact ih _ (h.goOn step)

theorem passed_of_enqueue {entry : Entry} (h : s.enqueue entry = (.ok (), s')) :
    s'.passed = s.passed ++ [entry] ∧ s'.destroyed = s.destroyed := by
  unfold AsyncPcapRtpWriter.enqueue at h
  split at h
  · cases h
  · split at h
    · cases h
    · split at h
      · obtain rfl := (Prod.mk.inj h).2
        exact ⟨rfl, rfl⟩
      · obtain rfl := (Prod.mk.inj h).2
        exact ⟨rfl, rfl⟩

/-- A call that does not throw has passed its entry. -/
theorem Recording.enqueue {entry : Entry} (h : Recording r.writer entries)
    (henqueue : r.enqueue entry = .ok r') : Recording r'.writer (entries ++ [entry]) := by
  have hbefore := h.advance
  unfold Recorder.enqueue at henqueue
  split at henqueue
  · cases henqueue
  · next writer hcall =>
    obtain rfl := Except.ok.inj henqueue
    obtain ⟨hpassed, hdestroyed⟩ := passed_of_enqueue hcall
    have hstep : r.advance.writer.step (.enqueue entry) = some writer := by
      rw [AsyncPcapRtpWriter.step, hbefore.alive]
      exact congrArg some (congrArg Prod.snd hcall)
    refine ⟨reached_step hbefore.reached hstep, ?_, hdestroyed.trans hbefore.alive⟩
    rw [← hbefore.passed]
    exact hpassed

/-- A `close` that returns. -/
theorem Recording.close (h : Recording r.writer entries) (hclose : r.close = some (.ok r')) :
    Recording r'.writer entries ∧ .ok () ∈ r'.writer.closes := by
  have hbefore := h.advance
  obtain ⟨begun, hbegin, hclose⟩ := Option.bind_eq_some_iff.mp hclose
  have hbegun : Recording begun entries := by
    have hstep : r.advance.writer.step .closeBegin = some begun := by
      rw [AsyncPcapRtpWriter.step, hbefore.alive]
      exact hbegin
    cases (AsyncPcapRtpWriter.step_cases hstep).2
    exact ⟨reached_step hbefore.reached hstep, hbefore.passed, hbefore.alive⟩
  have hjoining := hbegun.advance (r := { r.advance with writer := begun })
  generalize Recorder.advance { r.advance with writer := begun } = joining at hclose hjoining
  obtain ⟨ended, hend, hresult⟩ := Option.bind_eq_some_iff.mp hclose
  have hstep : joining.writer.step .closeEnd = some ended := by
    rw [AsyncPcapRtpWriter.step, hjoining.alive]
    exact hend
  obtain ⟨_, hclosed, rfl⟩ := map_eq_ok.mp (Option.some.inj hresult)
  cases (AsyncPcapRtpWriter.step_cases hstep).2
  refine ⟨⟨reached_step hjoining.reached hstep, hjoining.passed, hjoining.alive⟩, ?_⟩
  show .ok () ∈ joining.writer.closes ++ [joining.writer.closeResult]
  rw [hclosed]
  exact List.mem_append_right _ List.mem_cons_self

/-- The writer of a recorder that is gone. -/
theorem Recording.destroy (h : Recording r.writer entries) (hdestroy : r.destroy = some r') :
    (∃ events, AsyncPcapRtpWriter.run events = some r'.writer) ∧ r'.writer.passed = entries
      ∧ r'.writer.destroyed = true ∧ ∀ result ∈ r.writer.closes, result ∈ r'.writer.closes := by
  obtain ⟨writer, hrun, rfl⟩ := Option.map_eq_some_iff.mp hdestroy
  obtain ⟨s₁, hbegin, hrun⟩ := Trace.run_cons_eq_some.mp hrun
  obtain ⟨s₂, hend, hrun⟩ := Trace.run_cons_eq_some.mp hrun
  obtain ⟨s₃, hlast, hrun⟩ := Trace.run_cons_eq_some.mp hrun
  obtain rfl := Option.some.inj hrun
  refine ⟨reached_step (reached_step (reached_step h.reached hbegin) hend) hlast, ?_⟩
  cases (AsyncPcapRtpWriter.step_cases hbegin).2
  cases (AsyncPcapRtpWriter.step_cases hend).2
  cases (AsyncPcapRtpWriter.step_cases hlast).2
  exact ⟨h.passed, rfl, fun result hresult => List.mem_append_left _ hresult⟩

end Recorder
end Ipmx.Sender
