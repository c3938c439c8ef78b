/-
Ipmx.Lib.OutputStream — a stream that writes to a file behind a buffer.

What is put into the stream waits in its buffer until the file takes it. When
that is, and how much of the buffer the file takes, is not the writer's to say:
the amount is an argument of `flush`. Whatever the amounts are, file and buffer
together hold what was put in, in order, and the file holds all of it exactly
after a flush that takes the whole buffer (`flush_file_eq_iff`).
-/
import Mathlib.Data.List.TakeDrop

namespace Ipmx.Lib

structure OutputStream (α : Type) where
  file : List α := []
  buffer : List α := []
deriving DecidableEq, Repr

namespace OutputStream

variable {α : Type}

def put (s : OutputStream α) (item : α) : OutputStream α :=
  { s with buffer := s.buffer ++ [item] }

/-- The file takes the first `taken` items of the buffer. -/
def flush (s : OutputStream α) (taken : Nat) : OutputStream α where
  file := s.file ++ s.buffer.take taken
  buffer := s.buffer.drop taken

/-- What was put in. -/
def written (s : OutputStream α) : List α := s.file ++ s.buffer

@[simp] theorem written_put (s : OutputStream α) (item : α) :
    (s.put item).written = s.written ++ [item] :=
  (List.append_assoc ..).symm

@[simp] theorem written_flush (s : OutputStream α) (taken : Nat) :
    (s.flush taken).written = s.written := by
  unfold written flush
  rw [List.append_assoc, List.take_append_drop]

theorem file_prefix (s : OutputStream α) : s.file <+: s.written := List.prefix_append _ _

theorem flush_file_eq_iff (s : OutputStream α) (taken : Nat) :
    (s.flush taken).file = s.written ↔ s.buffer.length ≤ taken := by
  unfold written flush
  rw [List.append_cancel_left_eq, List.take_eq_self_iff]

end OutputStream

end Ipmx.Lib
