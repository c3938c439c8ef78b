/-
Ipmx.Pcap.AsyncPcapRtpWriter — `AsyncPcapRtpWriter` of `pcap.cpp` as a machine.

A step is a section under the mutex: `enqueue` by any thread, the section of
the worker that takes an entry or leaves its loop, what the worker makes of the
entry it has written, the two ends of `close`, and the destruction of the
writer. The fields of the source come first; the others are the history that
the statements are about. The threads only meet in these sections, so a run is
a list of events.

The `std::ofstream` of `PcapRtpWriter` is buffered. `write` puts a record into
it and only learns of a disk that is full when the stream empties its buffer;
neither `close` asks the stream, and what its destructor cannot write is lost
without a word. Records are counted here, and one is in the file when all of
its bytes are.
-/
import Ipmx.Lib.OutputStream
import Ipmx.Lib.Trace
import Ipmx.Lib.WorkQueue
import Ipmx.Rtp.Packet

namespace Ipmx.Pcap

open Ipmx.Lib
open Rtp

structure Entry where
  payload : Bytes
  unixTimeNs : UInt64 := 0
  sourcePort : UInt16 := 0
  destinationPort : UInt16 := 0
deriving DecidableEq, Repr

/-- The state of the writer. `entries` is the deque with the entry the worker holds, `output` the
stream of its `writer` with the entries as records, and `workerRunning` is false once the thread
can be joined. -/
structure AsyncPcapRtpWriter where
  entries : WorkQueue Entry := {}
  output : OutputStream Entry := {}
  dropped : UInt64 := 0
  error : Option String := none
  stopping : Bool := false
  workerRunning : Bool := true
  /-- The owner is between the two ends of `close`. -/
  closing : Bool := false
  destroyed : Bool := false
  /-- The packets passed to an `enqueue` that did not throw, and those it refused. -/
  passed : List Entry := []
  refused : List Entry := []
  /-- How the calls of `close` have ended. -/
  closes : List (Except String Unit) := []
deriving DecidableEq, Repr

def maximumQueuedPackets : Nat := 8192

namespace AsyncPcapRtpWriter

/-- `enqueue`: how it ends, and the state it leaves. -/
def enqueue (s : AsyncPcapRtpWriter) (entry : Entry) : Except String Unit × AsyncPcapRtpWriter :=
  match s.error with
  | some what => (.error what, s)
  | none =>
    if s.stopping then
      (.error "PCAP writer is closed", s)
    else if s.entries.waiting.length ≥ maximumQueuedPackets then
      (.ok (), { s with
        dropped := s.dropped + 1, passed := s.passed ++ [entry], refused := s.refused ++ [entry] })
    else
      (.ok (), { s with entries := s.entries.push entry, passed := s.passed ++ [entry] })

/-- The locked section of the worker loop: an entry is taken, or the loop is left. -/
def pop (s : AsyncPcapRtpWriter) : Option AsyncPcapRtpWriter :=
  if s.workerRunning ∧ s.entries.current = none then
    match s.entries.waiting with
    | [] => if s.stopping then some { s with workerRunning := false } else none
    | entry :: rest => some { s with entries := s.entries.take entry rest }
  else
    none

/-- The end of `writer.write`: the record is in the stream, or an exception has been stored. In
both cases the file has taken some of what the stream held. A payload that does not fit an IPv4
packet is not written. -/
def write (s : AsyncPcapRtpWriter) (failure : Option String) (taken : Nat) :
    Option AsyncPcapRtpWriter :=
  match s.entries.current, failure with
  | none, _ => none
  | some entry, none =>
    if entry.payload.length > 65535 - 28 then none
    else some { s with
      entries := s.entries.finish entry, output := (s.output.put entry).flush taken }
  | some entry, some what =>
    some { s with
      entries := s.entries.fail entry, output := s.output.flush taken
      error := some what, stopping := true, workerRunning := false }

/-- `close` up to the join. -/
def closeBegin (s : AsyncPcapRtpWriter) : Option AsyncPcapRtpWriter :=
  if s.closing then none else some { s with stopping := true, closing := true }

/-- How `close` ends, behind the join. -/
def closeResult (s : AsyncPcapRtpWriter) : Except String Unit :=
  match s.error with
  | some what => .error what
  | none =>
    if s.dropped ≠ 0 then
      .error "PCAP writer could not keep up and dropped queued packets"
    else
      .ok ()

/-- `close` behind the join, which waits for the worker. -/
def closeEnd (s : AsyncPcapRtpWriter) : Option AsyncPcapRtpWriter :=
  if s.closing ∧ ¬ s.workerRunning then
    some { s with closing := false, closes := s.closes ++ [s.closeResult] }
  else
    none

/-- The end of the destructor, behind the `close` that it begins with. The destructor of the
stream empties the buffer once more, and what the file does not take is lost. -/
def destroy (s : AsyncPcapRtpWriter) (taken : Nat) : Option AsyncPcapRtpWriter :=
  if s.closing ∨ s.workerRunning then none
  else some { s with output := s.output.flush taken, destroyed := true }

inductive Event
  | enqueue (entry : Entry)
  | pop
  | write (failure : Option String) (taken : Nat)
  | closeBegin
  | closeEnd
  | destroy (taken : Nat)
deriving DecidableEq, Repr

def step (s : AsyncPcapRtpWriter) (event : Event) : Option AsyncPcapRtpWriter :=
  if s.destroyed then
    none
  else
    match event with
    | .enqueue entry => some (s.enqueue entry).2
    | .pop => s.pop
    | .write failure taken => s.write failure taken
    | .closeBegin => s.closeBegin
    | .closeEnd => s.closeEnd
    | .destroy taken => s.destroy taken

/-- A run of the writer from its construction. -/
def run (events : List Event) : Option AsyncPcapRtpWriter := Trace.run step {} events

end AsyncPcapRtpWriter
end Ipmx.Pcap
