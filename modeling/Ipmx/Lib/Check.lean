/-
Ipmx.Lib.Check — guarded steps that throw.

A function that throws is an `Except`, and a guard `if (p) throw e` at the
front of its rest is the step `rejectIf p e`. `bind_eq_ok` and
`rejectIf_eq_ok` take a successful run apart into its steps, `bind_eq_error`
finds the step that threw, and `exists_bind_ok` and `exists_rejectIf_bind_ok`
say when a run returns at all. `Exits thrown x P` is the postcondition of a run with
both of its exits: what it returns satisfies `P`, what it throws `thrown`.
-/

namespace Ipmx.Lib

variable {ε α β : Type}

/-- The guard that throws when `p` holds. -/
def rejectIf (p : Prop) [Decidable p] (error : ε) : Except ε Unit :=
  if p then .error error else .ok ()

theorem ok_bind (a : α) (f : α → Except ε β) : (Except.ok a >>= f) = f a := rfl

theorem bind_eq_ok {x : Except ε α} {f : α → Except ε β} {b : β} :
    (x >>= f) = .ok b ↔ ∃ a, x = .ok a ∧ f a = .ok b := by
  cases x with
  | error e => exact iff_of_false (fun h => nomatch h) fun ⟨_, h, _⟩ => nomatch h
  | ok a => exact ⟨fun h => ⟨a, rfl, h⟩, fun ⟨_, hx, h⟩ => Except.ok.inj hx ▸ h⟩

theorem map_eq_ok {x : Except ε α} {f : α → β} {b : β} :
    (f <$> x) = .ok b ↔ ∃ a, x = .ok a ∧ f a = b := by
  cases x with
  | error e => exact iff_of_false (fun h => nomatch h) fun ⟨_, h, _⟩ => nomatch h
  | ok a => exact ⟨fun h => ⟨a, rfl, Except.ok.inj h⟩,
      fun ⟨_, hx, h⟩ => congrArg Except.ok (Except.ok.inj hx ▸ h)⟩

theorem mapError_eq_ok {ε' : Type} {x : Except ε α} {f : ε → ε'} {a : α} :
    x.mapError f = .ok a ↔ x = .ok a := by
  cases x with
  | error e => exact iff_of_false (fun h => nomatch h) fun h => nomatch h
  | ok b => exact ⟨fun h => congrArg Except.ok (Except.ok.inj h),
      fun h => congrArg Except.ok (Except.ok.inj h)⟩

theorem bind_eq_error {x : Except ε α} {f : α → Except ε β} {e : ε} :
    (x >>= f) = .error e ↔ x = .error e ∨ ∃ a, x = .ok a ∧ f a = .error e := by
  cases x with
  | error e' =>
    constructor
    · intro h
      exact .inl (congrArg Except.error (Except.error.inj h))
    · rintro (h | ⟨_, h, _⟩)
      · exact congrArg Except.error (Except.error.inj h)
      · cases h
  | ok a =>
    constructor
    · intro h
      exact .inr ⟨a, rfl, h⟩
    · rintro (h | ⟨_, hx, h⟩)
      · cases h
      · exact Except.ok.inj hx ▸ h

/-- A run that is not an error returns a value. -/
theorem exists_of_isSome {x : Except ε α} (h : x.toOption.isSome = true) : ∃ a, x = .ok a := by
  cases x with
  | error e => cases h
  | ok a => exact ⟨a, rfl⟩

theorem toOption_eq_some {x : Except ε α} {a : α} : x.toOption = some a ↔ x = .ok a := by
  cases x with
  | error e => exact iff_of_false (fun h => nomatch h) fun h => nomatch h
  | ok b => exact ⟨fun h => congrArg Except.ok (Option.some.inj h),
      fun h => congrArg some (Except.ok.inj h)⟩

theorem rejectIf_eq_ok {p : Prop} [Decidable p] {error : ε} {u : Unit} :
    rejectIf p error = .ok u ↔ ¬ p := by
  unfold rejectIf
  split
  · next h => exact iff_of_false (fun h => nomatch h) (not_not_intro h)
  · next h => exact iff_of_true rfl h

/-- A run that passes the guard in front of it. -/
theorem rejectIf_bind_eq_ok {p : Prop} [Decidable p] {error : ε} {f : Unit → Except ε β} {b : β} :
    (rejectIf p error >>= f) = .ok b ↔ ¬ p ∧ f () = .ok b := by
  rw [bind_eq_ok]
  constructor
  · rintro ⟨_, hguard, hrest⟩
    exact ⟨rejectIf_eq_ok.mp hguard, hrest⟩
  · rintro ⟨hpass, hrest⟩
    exact ⟨(), rejectIf_eq_ok.mpr hpass, hrest⟩

/-! ## Runs that return -/

theorem exists_bind_ok {x : Except ε α} {f : α → Except ε β} :
    (∃ b, (x >>= f) = .ok b) ↔ ∃ a, x = .ok a ∧ ∃ b, f a = .ok b := by
  constructor
  · rintro ⟨b, h⟩
    obtain ⟨a, hx, hf⟩ := bind_eq_ok.mp h
    exact ⟨a, hx, b, hf⟩
  · rintro ⟨a, hx, b, hf⟩
    exact ⟨b, bind_eq_ok.mpr ⟨a, hx, hf⟩⟩

theorem exists_rejectIf_bind_ok {p : Prop} [Decidable p] {error : ε} {f : Unit → Except ε β} :
    (∃ b, (rejectIf p error >>= f) = .ok b) ↔ ¬ p ∧ ∃ b, f () = .ok b := by
  constructor
  · rintro ⟨b, h⟩
    obtain ⟨hpass, hf⟩ := rejectIf_bind_eq_ok.mp h
    exact ⟨hpass, b, hf⟩
  · rintro ⟨hpass, b, hf⟩
    exact ⟨b, rejectIf_bind_eq_ok.mpr ⟨hpass, hf⟩⟩

/-! ## Postconditions -/

/-- What `x` returns satisfies `P`, and what it throws `thrown`. -/
def Exits (thrown : ε → Prop) (x : Except ε α) (P : α → Prop) : Prop :=
  match x with
  | .ok a => P a
  | .error e => thrown e

namespace Exits

variable {thrown : ε → Prop} {x : Except ε α} {P : α → Prop}

theorem bind {f : α → Except ε β} {R : β → Prop} (h : Exits thrown x P)
    (hf : ∀ a, P a → Exits thrown (f a) R) : Exits thrown (x >>= f) R := by
  cases x with
  | error e => exact h
  | ok a => exact hf a h

theorem returned (h : Exits thrown x P) {a : α} (hx : x = .ok a) : P a := by
  subst hx
  exact h

theorem threw (h : Exits thrown x P) {e : ε} (hx : x = .error e) : thrown e := by
  subst hx
  exact h

end Exits

end Ipmx.Lib
