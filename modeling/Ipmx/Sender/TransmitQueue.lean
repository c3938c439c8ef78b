/-
Ipmx.Sender.TransmitQueue — the queue of `FrameTransmitter`
(`frame_transmitter.cpp`) as a machine.

A step is a section under the mutex: `enqueue` by any producer, the section of
the worker that takes a frame or leaves its loop, the completion or the failure
of the frame in flight, and the two ends of `close`. What the worker sends of a
frame is `FrameTransmitter.transmit`; here a frame is taken, and it is
completed or the worker fails on it. The copies of the counters that `stats`
returns are left out.
-/
import Ipmx.Lib.Trace
import Ipmx.Lib.Word64
import Ipmx.Lib.WorkQueue
import Ipmx.Sender.FrameTransmitter

namespace Ipmx.Sender

open Ipmx.Lib
open Rtp

/-- Where the worker thread is: before its loop, in it, behind it, or ended. -/
inductive WorkerPhase
  | starting | serving | leaving | ended
deriving DecidableEq, Repr

/-- The fields of `FrameTransmitter::State` that its mutex protects. `queue` is the deque with
the frame in flight and the history of the frames. -/
structure TransmitQueue where
  maximumQueuedFrames : Nat
  queue : WorkQueue TransmitFrame := {}
  queuedBytes : Nat := 0
  maximumQueuedBytes : Nat := 0
  maximumQueueDepth : Nat := 0
  error : Option String := none
  stopping : Bool := false
  closed : Bool := false
  phase : WorkerPhase := .starting
  /-- The owner waits in `close` for the worker. -/
  closing : Bool := false
  /-- How the calls of `close` have ended. -/
  closes : List (Except String Unit) := []

namespace TransmitQueue

/-! ## The bytes of a frame -/

/-- The loop of `enqueue` over the packets: a sum that stops at the largest word. -/
def acceptedBytes : Nat → List Bytes → Nat
  | frameBytes, [] => frameBytes
  | frameBytes, packet :: packets =>
    if frameBytes > Word64.maximum - packet.length then Word64.maximum
    else acceptedBytes (frameBytes + packet.length) packets

/-- The loop of the worker over the packets: a sum that wraps. -/
def takenBytes : Nat → List Bytes → Nat
  | frameBytes, [] => frameBytes
  | frameBytes, packet :: packets =>
    takenBytes (Word64.wrap (frameBytes + packet.length)) packets

/-! ## The sections -/

/-- `enqueue`: how it ends and the state it leaves, or `none` while it waits for space. -/
def enqueue (s : TransmitQueue) (frame : TransmitFrame) :
    Option (Except String Unit × TransmitQueue) :=
  if s.stopping ∨ s.error.isSome ∨ s.queue.waiting.length < s.maximumQueuedFrames then
    match s.error with
    | some what => some (.error what, s)
    | none =>
      if s.stopping then
        some (.error "frame transmitter is closed", s)
      else
        let queuedBytes := Word64.saturatingAdd s.queuedBytes (acceptedBytes 0 frame.rtpPackets)
        some (.ok (), { s with
          queue := s.queue.push frame
          queuedBytes
          maximumQueuedBytes := max s.maximumQueuedBytes queuedBytes
          maximumQueueDepth := max s.maximumQueueDepth (s.queue.waiting.length + 1) })
  else
    none

/-- The sockets and the capture file are open, and the loop begins. -/
def start (s : TransmitQueue) : Option TransmitQueue :=
  if s.phase = .starting then some { s with phase := .serving } else none

/-- The locked section at the front of the loop: a frame is taken, or the loop is left. -/
def pop (s : TransmitQueue) : Option TransmitQueue :=
  if s.phase = .serving ∧ s.queue.current = none then
    match s.queue.waiting with
    | [] => if s.stopping then some { s with phase := .leaving } else none
    | frame :: rest => some { s with queue := s.queue.take frame rest }
  else
    none

/-- The locked section behind the last packet of a frame, or behind the report of a frame
without packets. -/
def complete (s : TransmitQueue) : Option TransmitQueue :=
  match s.queue.current with
  | none => none
  | some frame =>
    let frameBytes := takenBytes 0 frame.rtpPackets
    some { s with
      queue := s.queue.finish frame
      queuedBytes := if frameBytes ≥ s.queuedBytes then 0 else s.queuedBytes - frameBytes }

/-- The handler around the worker. An exception comes from opening the sockets or the file,
from a frame, or from closing the file. -/
def fail (s : TransmitQueue) (what : String) : Option TransmitQueue :=
  match s.queue.current with
  | some frame =>
    some { s with
      queue := s.queue.fail frame, error := some what, stopping := true, phase := .ended }
  | none =>
    if s.phase = .starting ∨ s.phase = .leaving then
      some { s with error := some what, stopping := true, phase := .ended }
    else
      none

/-- The worker ends without an exception. -/
def leave (s : TransmitQueue) : Option TransmitQueue :=
  if s.phase = .leaving then some { s with phase := .ended } else none

/-- `if (state_->error) std::rethrow_exception(state_->error)`, at the end of `close`. -/
def closeResult (s : TransmitQueue) : Except String Unit :=
  match s.error with
  | some what => .error what
  | none => .ok ()

/-- `close` up to the join; a `close` behind another one ends here. -/
def closeBegin (s : TransmitQueue) : Option TransmitQueue :=
  if s.closing then none
  else if s.closed then some { s with closes := s.closes ++ [s.closeResult] }
  else some { s with stopping := true, closed := true, closing := true }

/-- `close` behind the join, which waits for the worker. -/
def closeEnd (s : TransmitQueue) : Option TransmitQueue :=
  if s.closing ∧ s.phase = .ended then
    some { s with closing := false, closes := s.closes ++ [s.closeResult] }
  else
    none

inductive Event
  | enqueue (frame : TransmitFrame)
  | start
  | pop
  | complete
  | fail (what : String)
  | leave
  | closeBegin
  | closeEnd
deriving DecidableEq, Repr

def step (s : TransmitQueue) : Event → Option TransmitQueue
  | .enqueue frame => (s.enqueue frame).map Prod.snd
  | .start => s.start
  | .pop => s.pop
  | .complete => s.complete
  | .fail what => s.fail what
  | .leave => s.leave
  | .closeBegin => s.closeBegin
  | .closeEnd => s.closeEnd

/-- A run of the queue from the construction of the transmitter. -/
def run (maximumQueuedFrames : Nat) (events : List Event) : Option TransmitQueue :=
  Trace.run step { maximumQueuedFrames } events

end TransmitQueue
end Ipmx.Sender
