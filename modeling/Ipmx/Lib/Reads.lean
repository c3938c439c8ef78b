/-
Ipmx.Lib.Reads — readers that take a prefix off a list of symbols.

`Reads reader chunk value` says that `reader` takes exactly `chunk` off the
front of any list and returns `value`. A reader built with `bind` reads the
concatenation of what its parts read, so the inverse of an encoder that appends
its fields is proved field by field. The symbols may be bits, bytes or tokens,
and `readToEnd` reads items of them until there is none left.
`Ensures reader P` says that whatever `reader` returns, on any symbols,
satisfies `P`. `Follows reader model R` says that whenever `reader` returns a
value, `model` returns one of the same symbols, and `R` relates the two.
-/
import Mathlib.Data.List.Basic
import Mathlib.Data.Option.Basic

namespace Ipmx.Lib

variable {σ α β γ : Type}

/-- `reader` takes `chunk` off the front of any list and returns `value`. -/
def Reads (reader : StateT (List σ) Option α) (chunk : List σ) (value : α) : Prop :=
  ∀ rest, reader (chunk ++ rest) = some (value, rest)

/-- A run of two readers in a row, taken apart. -/
theorem bind_eq_some {reader : StateT (List σ) Option α} {next : α → StateT (List σ) Option β}
    {symbols rest : List σ} {b : β} :
    (reader >>= next) symbols = some (b, rest) ↔
      ∃ a middle, reader symbols = some (a, middle) ∧ next a middle = some (b, rest) := by
  show (reader symbols >>= fun p => next p.1 p.2) = some (b, rest) ↔ _
  cases reader symbols with
  | none => simp
  | some p =>
    obtain ⟨a, middle⟩ := p
    simp

/-- A check that is passed leaves the symbols as they are. -/
theorem guard_eq_some {p : Prop} [Decidable p] {symbols rest : List σ} {u : Unit}
    (h : (guard p : StateT (List σ) Option Unit) symbols = some (u, rest)) :
    p ∧ rest = symbols := by
  by_cases hp : p
  · rw [guard, if_pos hp] at h
    cases h
    exact ⟨hp, rfl⟩
  · rw [guard, if_neg hp] at h
    cases h

namespace Reads

variable {reader : StateT (List σ) Option α} {next : α → StateT (List σ) Option β}
variable {chunk chunk' : List σ} {a : α} {b : β}

theorem pure (a : α) : Reads (Pure.pure a : StateT (List σ) Option α) [] a := by
  intro rest
  rfl

theorem bind (h : Reads reader chunk a) (hnext : Reads (next a) chunk' b) :
    Reads (reader >>= next) (chunk ++ chunk') b := by
  intro rest
  show (reader (chunk ++ chunk' ++ rest) >>= fun p => next p.1 p.2) = some (b, rest)
  rw [List.append_assoc, h]
  exact hnext rest

/-- What is read goes on behind the chunk. -/
theorem bind_run (h : Reads reader chunk a) (next : α → StateT (List σ) Option β)
    (rest : List σ) : (reader >>= next) (chunk ++ rest) = next a rest := by
  show (reader (chunk ++ rest) >>= fun p => next p.1 p.2) = next a rest
  rw [h]
  rfl

/-- A reader whose last step only computes. -/
theorem bind_pure (h : Reads reader chunk a) (hnext : next a = Pure.pure b) :
    Reads (reader >>= next) chunk b := by
  have hlast : Reads (next a) [] b := by
    rw [hnext]
    exact pure b
  simpa using h.bind hlast

theorem map (h : Reads reader chunk a) (f : α → β) : Reads (f <$> reader) chunk (f a) := by
  intro rest
  show (reader (chunk ++ rest) >>= fun p => some (f p.1, p.2)) = some (f a, rest)
  rw [h]
  rfl

/-- A check that holds reads nothing. -/
theorem guard_pos {p : Prop} [Decidable p] (hp : p) :
    Reads (guard p : StateT (List σ) Option Unit) [] () := by
  intro rest
  rw [guard, if_pos hp]
  rfl

theorem guard_bind {p : Prop} [Decidable p] {next : Unit → StateT (List σ) Option β} (hp : p)
    (hnext : Reads (next ()) chunk b) : Reads (guard p >>= next) chunk b := by
  simpa using (guard_pos hp).bind hnext

/-- The rest behind a check that holds. -/
theorem guard_run {p : Prop} [Decidable p] (hp : p) (next : Unit → StateT (List σ) Option β)
    (symbols : List σ) : (guard p >>= next) symbols = next () symbols :=
  (guard_pos hp).bind_run next symbols

end Reads

/-! ## Symbols in a row -/

/-- The next `n` symbols. -/
def takeSymbols (n : Nat) : StateT (List σ) Option (List σ) := fun symbols =>
  if n ≤ symbols.length then some (symbols.take n, symbols.drop n) else none

theorem reads_take {chunk : List σ} {n : Nat} (h : chunk.length = n) :
    Reads (takeSymbols n) chunk chunk := by
  intro rest
  subst h
  rw [takeSymbols, if_pos (by simp), List.take_left, List.drop_left]

/-- A reader whose next `n` symbols have to pass a check of their own. -/
def checked (n : Nat) (p : List σ → Bool) (reader : StateT (List σ) Option α) :
    StateT (List σ) Option α := fun symbols =>
  if p (symbols.take n) then reader symbols else none

theorem Reads.checked {reader : StateT (List σ) Option α} {chunk : List σ} {a : α} {n : Nat}
    {p : List σ → Bool} (h : Reads reader chunk a) (hlength : chunk.length = n)
    (hp : p chunk = true) : Reads (checked n p reader) chunk a := by
  intro rest
  subst hlength
  rw [Lib.checked, List.take_left, if_pos hp]
  exact h rest

/-- Items up to the end, of which at most `fuel` are read. -/
def readAll (item : StateT (List σ) Option α) : Nat → StateT (List σ) Option (List α)
  | _, [] => some ([], [])
  | 0, _ :: _ => none
  | fuel + 1, symbol :: symbols =>
    (do
      let a ← item
      let rest ← readAll item fuel
      return a :: rest : StateT (List σ) Option (List α)) (symbol :: symbols)

/-- Items up to the end. An item that takes no symbol would not come to it. -/
def readToEnd (item : StateT (List σ) Option α) : StateT (List σ) Option (List α) := fun symbols =>
  readAll item symbols.length symbols

theorem readAll_of_reads {item : StateT (List σ) Option α} {chunks : List (List σ)}
    {values : List α}
    (h : List.Forall₂ (fun chunk a => Reads item chunk a ∧ chunk ≠ []) chunks values) {fuel : Nat}
    (hfuel : chunks.length ≤ fuel) :
    readAll item fuel chunks.flatten = some (values, []) := by
  induction h generalizing fuel with
  | nil => cases fuel <;> rfl
  | @cons chunk a chunks values hfirst hrest ih =>
    obtain ⟨hreads, hne⟩ := hfirst
    obtain ⟨symbol, symbols, rfl⟩ := List.exists_cons_of_ne_nil hne
    cases fuel with
    | zero => simp at hfuel
    | succ fuel =>
      rw [List.flatten_cons, List.cons_append, readAll, bind_eq_some]
      have hlater := ih (Nat.le_of_succ_le_succ hfuel)
      refine ⟨a, chunks.flatten, hreads _, bind_eq_some.mpr ⟨values, [], hlater, rfl⟩⟩

/-- Chunks one behind the other are read item by item. -/
theorem readToEnd_of_reads {item : StateT (List σ) Option α} {chunks : List (List σ)}
    {values : List α}
    (h : List.Forall₂ (fun chunk a => Reads item chunk a ∧ chunk ≠ []) chunks values) :
    readToEnd item chunks.flatten = some (values, []) := by
  refine readAll_of_reads h ?_
  induction h with
  | nil => simp
  | cons hfirst hrest ih =>
    have hpositive := List.length_pos_of_ne_nil hfirst.2
    simp only [List.flatten_cons, List.length_append, List.length_cons]
    omega

/-- Whatever `reader` returns satisfies `P`. -/
def Ensures (reader : StateT (List σ) Option α) (P : α → Prop) : Prop :=
  ∀ symbols a rest, reader symbols = some (a, rest) → P a

namespace Ensures

variable {reader : StateT (List σ) Option α} {next : α → StateT (List σ) Option β}
variable {P : α → Prop} {Q : β → Prop}

theorem pure {a : α} (h : P a) : Ensures (Pure.pure a : StateT (List σ) Option α) P := by
  intro symbols a' rest hrun
  cases hrun
  exact h

theorem bind (hreader : Ensures reader P) (hnext : ∀ a, P a → Ensures (next a) Q) :
    Ensures (reader >>= next) Q := by
  intro symbols b rest hrun
  obtain ⟨a, middle, ha, hb⟩ := bind_eq_some.mp hrun
  exact hnext a (hreader _ _ _ ha) _ _ _ hb

/-- A step whose value does not matter. -/
theorem bind_right (hnext : ∀ a, Ensures (next a) Q) : Ensures (reader >>= next) Q := by
  intro symbols b rest hrun
  obtain ⟨a, middle, _, hb⟩ := bind_eq_some.mp hrun
  exact hnext a _ _ _ hb

/-- A step that depends on a condition, before a rest that both branches go on with. -/
theorem optional {p : Prop} [Decidable p] {other : StateT (List σ) Option α}
    (hnext : ∀ a, Ensures (next a) Q) :
    Ensures (if p then reader >>= next else other >>= next) Q := by
  split
  · exact bind_right hnext
  · exact bind_right hnext

/-- The same for a step that is left out otherwise. -/
theorem skippable {p : Prop} [Decidable p] {step : StateT (List σ) Option Unit}
    {next : Unit → StateT (List σ) Option β} (hnext : Ensures (next ()) Q) :
    Ensures (if p then step >>= next else next ()) Q := by
  split
  · exact bind_right fun _ => hnext
  · exact hnext

theorem imp {P' : α → Prop} (h : Ensures reader P) (himp : ∀ a, P a → P' a) :
    Ensures reader P' := by
  intro symbols a rest hrun
  exact himp a (h symbols a rest hrun)

end Ensures

/-- Where `reader` returns, `model` returns a related value. -/
def Follows (reader : StateT (List σ) Option α) (model : StateT (List σ) Option γ)
    (R : α → γ → Prop) : Prop :=
  ∀ symbols a rest, reader symbols = some (a, rest) →
    ∃ c left, model symbols = some (c, left) ∧ R a c

namespace Follows

variable {reader : StateT (List σ) Option α} {next : α → StateT (List σ) Option β}
variable {P : α → Prop} {R : α → γ → Prop} {S : β → γ → Prop}

theorem pure {a : α} {c : γ} (h : R a c) :
    Follows (Pure.pure a : StateT (List σ) Option α) (Pure.pure c) R := by
  intro symbols a' rest hrun
  cases hrun
  exact ⟨c, symbols, rfl, h⟩

/-- A step that both take. -/
theorem bind_ensures {next' : α → StateT (List σ) Option γ} (hreader : Ensures reader P)
    (hnext : ∀ a, P a → Follows (next a) (next' a) S) :
    Follows (reader >>= next) (reader >>= next') S := by
  intro symbols b rest hrun
  obtain ⟨a, middle, ha, hb⟩ := bind_eq_some.mp hrun
  obtain ⟨c, left, hc, hS⟩ := hnext a (hreader _ _ _ ha) _ _ _ hb
  exact ⟨c, left, bind_eq_some.mpr ⟨a, middle, ha, hc⟩, hS⟩

/-- A step that both take and whose value does not matter. -/
theorem bind {next' : α → StateT (List σ) Option γ}
    (hnext : ∀ a, Follows (next a) (next' a) S) :
    Follows (reader >>= next) (reader >>= next') S := by
  have htrue : Ensures reader fun _ => True := by
    intro symbols a rest hrun
    trivial
  exact bind_ensures htrue fun a _ => hnext a

/-- A step that depends on a condition both know. -/
theorem optional {p : Prop} [Decidable p] {other : StateT (List σ) Option α}
    {next' : α → StateT (List σ) Option γ} (hnext : ∀ a, Follows (next a) (next' a) S) :
    Follows (if p then reader >>= next else other >>= next)
      (if p then reader >>= next' else other >>= next') S := by
  split
  · exact bind hnext
  · exact bind hnext

/-- A check that only `reader` makes. -/
theorem guard_left {p : Prop} [Decidable p] {next : Unit → StateT (List σ) Option β}
    {model : StateT (List σ) Option γ} (hnext : Follows (next ()) model S) :
    Follows (guard p >>= next) model S := by
  intro symbols b rest hrun
  obtain ⟨u, middle, hguard, hb⟩ := bind_eq_some.mp hrun
  obtain ⟨_, rfl⟩ := guard_eq_some hguard
  exact hnext _ _ _ hb

/-- A rest that only `reader` goes on with. -/
theorem bind_left {model : StateT (List σ) Option γ} (h : Follows reader model R)
    (hnext : ∀ a, Ensures (next a) fun b => ∀ c, R a c → S b c) :
    Follows (reader >>= next) model S := by
  intro symbols b rest hrun
  obtain ⟨a, middle, ha, hb⟩ := bind_eq_some.mp hrun
  obtain ⟨c, left, hc, hR⟩ := h _ _ _ ha
  exact ⟨c, left, hc, hnext a _ _ _ hb c hR⟩

end Follows

end Ipmx.Lib
