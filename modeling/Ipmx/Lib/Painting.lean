/-
Ipmx.Lib.Painting — programs that fill a buffer cell by cell.

A program reads and writes cells of buffers and fails outside of them.
`Paints step region value size` says that on a buffer of `size` cells `step`
succeeds, gives every cell of `region` its `value` and leaves the others as
they are. All steps share one `value`, so steps in a row and loops paint the
union of their regions, in any order and with overlaps, and a step whose region
is the whole buffer leaves nothing of what was in it (`Paints.fills`).
-/
import Mathlib.Data.List.Basic
import Ipmx.Lib.Check

namespace Ipmx.Lib

variable {ε β ι : Type}

/-- A read through a pointer into a buffer. -/
def readCell (fault : ε) (buffer : List β) (p : Nat) : Except ε β :=
  match buffer[p]? with
  | some b => .ok b
  | none => .error fault

/-- A write through a pointer into a buffer. -/
def writeCell (fault : ε) (p : Nat) (b : β) (buffer : List β) : Except ε (List β) :=
  if p < buffer.length then .ok (buffer.set p b) else .error fault

theorem readCell_of_lt {buffer : List β} {p : Nat} (fault : ε) (default : β)
    (h : p < buffer.length) : readCell fault buffer p = .ok (buffer.getD p default) := by
  rw [readCell, List.getD_eq_getElem?_getD, List.getElem?_eq_getElem h]
  rfl

/-- On a buffer of `size` cells, `step` gives the cells of `region` their values. -/
def Paints (step : List β → Except ε (List β)) (region : Nat → Prop) (value : Nat → β)
    (size : Nat) : Prop :=
  ∀ buffer, buffer.length = size →
    ∃ painted, step buffer = .ok painted ∧ painted.length = size
      ∧ (∀ p < size, region p → painted[p]? = some (value p))
      ∧ ∀ p < size, ¬ region p → painted[p]? = buffer[p]?

namespace Paints

variable {step step' : List β → Except ε (List β)} {region region' : Nat → Prop}
variable {value : Nat → β} {size : Nat}

theorem write (fault : ε) {p : Nat} {b : β} (hp : p < size) (hb : b = value p) :
    Paints (writeCell fault p b) (· = p) value size := by
  intro buffer hlength
  have hwrite : writeCell fault p b buffer = .ok (buffer.set p b) :=
    if_pos (by omega)
  refine ⟨buffer.set p b, hwrite, by simp [hlength], ?_, ?_⟩
  · intro q hq heq
    subst heq
    rw [List.getElem?_set_self (by omega), hb]
  · intro q hq hne
    exact List.getElem?_set_ne (Ne.symm hne)

theorem seq (h : Paints step region value size) (h' : Paints step' region' value size) :
    Paints (fun buffer => step buffer >>= step') (fun p => region p ∨ region' p) value size := by
  intro buffer hlength
  obtain ⟨first, hfirst, hfirstLength, hpainted, hkept⟩ := h buffer hlength
  obtain ⟨second, hsecond, hsecondLength, hpainted', hkept'⟩ := h' first hfirstLength
  have hrun : (step buffer >>= step') = .ok second := by
    rw [hfirst, ok_bind, hsecond]
  refine ⟨second, hrun, hsecondLength, ?_, ?_⟩
  · intro p hp hregion
    by_cases hlater : region' p
    · exact hpainted' p hp hlater
    · rw [hkept' p hp hlater]
      exact hpainted p hp (hregion.resolve_right hlater)
  · intro p hp hregion
    rw [not_or] at hregion
    rw [hkept' p hp hregion.2, hkept p hp hregion.1]

/-- A region may be described in another way. -/
theorem of_region (h : Paints step region value size) (hregion : ∀ p, region p ↔ region' p) :
    Paints step region' value size := by
  obtain rfl : region = region' := funext fun p => propext (hregion p)
  exact h

/-- A loop paints what its rounds paint. -/
theorem foldlM {body : ι → List β → Except ε (List β)} {regions : ι → Nat → Prop} {is : List ι}
    (h : ∀ i ∈ is, Paints (body i) (regions i) value size) :
    Paints (fun buffer => is.foldlM (fun buffer i => body i buffer) buffer)
      (fun p => ∃ i ∈ is, regions i p) value size := by
  induction is with
  | nil =>
    intro buffer hlength
    refine ⟨buffer, rfl, hlength, ?_, fun p hp _ => rfl⟩
    rintro p hp ⟨i, hi, _⟩
    cases hi
  | cons i is ih =>
    have hrest := ih fun j hj => h j (List.mem_cons_of_mem _ hj)
    have hall := (h i List.mem_cons_self).seq hrest
    simpa only [List.foldlM_cons, List.mem_cons, exists_eq_or_imp] using hall

/-- **A step that paints every cell** gives the same buffer whatever it held. -/
theorem fills (h : Paints step region value size) (hall : ∀ p < size, region p)
    {buffer : List β} (hlength : buffer.length = size) :
    ∃ painted, step buffer = .ok painted ∧ painted.length = size
      ∧ ∀ p < size, painted[p]? = some (value p) := by
  obtain ⟨painted, hstep, hpainted, hvalue, _⟩ := h buffer hlength
  exact ⟨painted, hstep, hpainted, fun p hp => hvalue p hp (hall p hp)⟩

end Paints

end Ipmx.Lib
