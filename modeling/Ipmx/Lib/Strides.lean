/-
Ipmx.Lib.Strides — a walk over blocks that say how long they are.

The block at a place is as long as the place says (`size`), and the next place is
where it ends. A walk up to `last` takes the blocks that end there or before, and
is over at a place whose block would run past `last`. There is one such walk from
every place (`exists_strides`, `Strides.unique`).
-/
import Mathlib.Order.Basic

namespace Ipmx.Lib

/-- The blocks at `starts` follow each other from `offset` to `stop`, none past `last`. -/
inductive Strides (size : Nat → Nat) (last : Nat) : Nat → Nat → List Nat → Prop
  | nil (offset : Nat) : Strides size last offset offset []
  | cons {offset stop : Nat} {starts : List Nat} (hfit : offset + size offset ≤ last)
      (rest : Strides size last (offset + size offset) stop starts) :
      Strides size last offset stop (offset :: starts)

variable {size : Nat → Nat} {last offset stop stop' : Nat} {starts starts' : List Nat}

theorem Strides.le_last (h : Strides size last offset stop starts) (hoffset : offset ≤ last) :
    stop ≤ last := by
  induction h with
  | nil offset => exact hoffset
  | cons hfit _ ih => exact ih hfit

theorem Strides.dvd {unit : Nat} (hsize : ∀ place, unit ∣ size place)
    (h : Strides size last offset stop starts) (hoffset : unit ∣ offset) : unit ∣ stop := by
  induction h with
  | nil offset => exact hoffset
  | cons _ _ ih => exact ih (Nat.dvd_add hoffset (hsize _))

/-- Two walks from one place that are over have taken the same blocks. -/
theorem Strides.unique (h : Strides size last offset stop starts)
    (hover : last < stop + size stop) (h' : Strides size last offset stop' starts')
    (hover' : last < stop' + size stop') : stop = stop' ∧ starts = starts' := by
  induction h generalizing starts' with
  | nil offset =>
    cases h' with
    | nil => exact ⟨rfl, rfl⟩
    | cons hfit _ => omega
  | cons hfit _ ih =>
    cases h' with
    | nil => omega
    | cons _ rest' =>
      obtain ⟨hstop, hstarts⟩ := ih hover rest'
      exact ⟨hstop, congrArg _ hstarts⟩

/-- Every walk over blocks that are not empty comes to an end. -/
theorem exists_strides (hpos : ∀ place, 0 < size place) (offset : Nat) :
    ∃ stop starts, Strides size last offset stop starts ∧ last < stop + size stop := by
  by_cases hfit : offset + size offset ≤ last
  · have hshorter : last - (offset + size offset) < last - offset := by
      have := hpos offset
      omega
    obtain ⟨stop, starts, rest, hover⟩ := exists_strides hpos (offset + size offset)
    exact ⟨stop, offset :: starts, .cons hfit rest, hover⟩
  · exact ⟨offset, [], .nil offset, by omega⟩
termination_by last - offset

end Ipmx.Lib
