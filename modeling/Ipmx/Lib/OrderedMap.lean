/-
Ipmx.Lib.OrderedMap — an ordered map as the list of its entries.

The entries are kept in the order of their keys, so that the smallest one is
the first, and whatever is erased from the small end leaves a tail. The theorems
compare the entries of a map that is filled with rising keys and emptied from
the small end with the sequence of what was ever put into it: they stay a
sublist of it, and taking one out moves it in front of the others
(`cons_eraseUpTo_sublist`).
-/
import Mathlib.Data.List.Pairwise
import Mathlib.Order.Lattice

namespace Ipmx.Lib

structure OrderedMap (κ ν : Type) [LinearOrder κ] where
  entries : List (κ × ν) := []
  sorted : entries.Pairwise (fun a b => a.1 < b.1) := by exact List.Pairwise.nil
deriving DecidableEq

namespace OrderedMap

variable {κ ν : Type} [LinearOrder κ]

def empty : OrderedMap κ ν := {}

def size (m : OrderedMap κ ν) : Nat := m.entries.length

def find? (m : OrderedMap κ ν) (key : κ) : Option ν :=
  (m.entries.find? fun entry => entry.1 = key).map Prod.snd

/-- The value of the smallest key. -/
def first? (m : OrderedMap κ ν) : Option ν := m.entries.head?.map Prod.snd

/-- The value of `key` is set, whether it has one or not. -/
def assign (m : OrderedMap κ ν) (key : κ) (value : ν) : OrderedMap κ ν where
  entries := m.entries.filter (fun entry => entry.1 < key)
    ++ (key, value) :: m.entries.filter (fun entry => key < entry.1)
  sorted := by
    rw [List.pairwise_append, List.pairwise_cons]
    refine ⟨m.sorted.filter _, ⟨?_, m.sorted.filter _⟩, ?_⟩
    · intro entry hentry
      simpa using (List.mem_filter.mp hentry).2
    · intro small hsmall large hlarge
      have hsmall : small.1 < key := by simpa using (List.mem_filter.mp hsmall).2
      rcases List.mem_cons.mp hlarge with rfl | hlarge
      · exact hsmall
      · have hlarge : key < large.1 := by simpa using (List.mem_filter.mp hlarge).2
        exact hsmall.trans hlarge

/-- The entries up to `key` are erased, `key` included. -/
def eraseUpTo (m : OrderedMap κ ν) (key : κ) : OrderedMap κ ν where
  entries := m.entries.filter fun entry => key < entry.1
  sorted := m.sorted.filter _

/-- The entries in front of the last `count` are erased. -/
def keepLast (m : OrderedMap κ ν) (count : Nat) : OrderedMap κ ν where
  entries := m.entries.drop (m.entries.length - count)
  sorted := m.sorted.sublist (List.drop_sublist _ _)

/-- The entry of the smallest key is erased. -/
def eraseFirst (m : OrderedMap κ ν) : OrderedMap κ ν where
  entries := m.entries.tail
  sorted := m.sorted.sublist (List.tail_sublist _)

@[simp] theorem assign_entries (m : OrderedMap κ ν) (key : κ) (value : ν) :
    (m.assign key value).entries
      = m.entries.filter (fun entry => entry.1 < key)
        ++ (key, value) :: m.entries.filter (fun entry => key < entry.1) := rfl

@[simp] theorem eraseUpTo_entries (m : OrderedMap κ ν) (key : κ) :
    (m.eraseUpTo key).entries = m.entries.filter fun entry => key < entry.1 := rfl

@[simp] theorem keepLast_entries (m : OrderedMap κ ν) (count : Nat) :
    (m.keepLast count).entries = m.entries.drop (m.entries.length - count) := rfl

@[simp] theorem eraseFirst_entries (m : OrderedMap κ ν) :
    m.eraseFirst.entries = m.entries.tail := rfl

/-! ## Filling with rising keys -/

/-- A key that is not below any other replaces the last entry or stands behind it. -/
theorem assign_sublist {m : OrderedMap κ ν} {key : κ} (h : ∀ entry ∈ m.entries, entry.1 ≤ key)
    (value : ν) : (m.assign key value).entries.Sublist (m.entries ++ [(key, value)]) := by
  have hlarge : m.entries.filter (fun entry => key < entry.1) = [] := by
    rw [List.filter_eq_nil_iff]
    intro entry hentry
    simpa using h entry hentry
  rw [assign_entries, hlarge]
  exact List.filter_sublist.append (List.Sublist.refl _)

/-- A key above all others comes last. -/
theorem assign_above {m : OrderedMap κ ν} {key : κ} (h : ∀ entry ∈ m.entries, entry.1 < key)
    (value : ν) : (m.assign key value).entries = m.entries ++ [(key, value)] := by
  have hsmall : m.entries.filter (fun entry => entry.1 < key) = m.entries := by
    rw [List.filter_eq_self]
    intro entry hentry
    simpa using h entry hentry
  have hlarge : m.entries.filter (fun entry => key < entry.1) = [] := by
    rw [List.filter_eq_nil_iff]
    intro entry hentry
    simpa using (h entry hentry).le
  rw [assign_entries, hsmall, hlarge]

theorem size_keepLast_le (m : OrderedMap κ ν) (count : Nat) : (m.keepLast count).size ≤ count := by
  rw [size, keepLast_entries, List.length_drop]
  omega

/-! ## Taking out -/

/-- An entry in its place: it is found, and behind it is what its key does not erase. -/
theorem take_of_split {m : OrderedMap κ ν} {before behind : List (κ × ν)} {key : κ} {value : ν}
    (h : m.entries = before ++ (key, value) :: behind) :
    m.find? key = some value ∧ (m.eraseUpTo key).entries = behind := by
  have hsorted := m.sorted
  rw [h, List.pairwise_append, List.pairwise_cons] at hsorted
  obtain ⟨_, ⟨hbehind, _⟩, hbefore⟩ := hsorted
  have hsmaller : ∀ entry ∈ before, entry.1 < key := fun entry hentry =>
    hbefore entry hentry (key, value) List.mem_cons_self
  constructor
  · have hmiss : before.find? (fun entry => entry.1 = key) = none := by
      rw [List.find?_eq_none]
      intro entry hentry
      simpa using (hsmaller entry hentry).ne
    rw [find?, h, List.find?_append, hmiss]
    simp
  · have hfront : before.filter (fun entry => key < entry.1) = [] := by
      rw [List.filter_eq_nil_iff]
      intro entry hentry
      simpa using (hsmaller entry hentry).le
    have hback : behind.filter (fun entry => key < entry.1) = behind := by
      rw [List.filter_eq_self]
      intro entry hentry
      simpa using hbehind entry hentry
    rw [eraseUpTo_entries, h, List.filter_append, hfront, List.filter_cons, hback]
    simp

/-- What is found has its place. -/
theorem split_of_find? {m : OrderedMap κ ν} {key : κ} {value : ν} (h : m.find? key = some value) :
    ∃ before behind, m.entries = before ++ (key, value) :: behind := by
  obtain ⟨entry, hfound, rfl⟩ := Option.map_eq_some_iff.mp h
  have hkey : entry.1 = key := by simpa using List.find?_some hfound
  obtain ⟨before, behind, hsplit⟩ := List.append_of_mem (List.mem_of_find?_eq_some hfound)
  exact ⟨before, behind, by rw [hsplit, ← hkey]⟩

/-- **An entry taken out comes in front of those it leaves.** -/
theorem cons_eraseUpTo_sublist {m : OrderedMap κ ν} {key : κ} {value : ν}
    (h : m.find? key = some value) :
    ((key, value) :: (m.eraseUpTo key).entries).Sublist m.entries := by
  obtain ⟨before, behind, hsplit⟩ := split_of_find? h
  rw [(take_of_split hsplit).2, hsplit]
  exact List.sublist_append_right _ _

end OrderedMap
end Ipmx.Lib
