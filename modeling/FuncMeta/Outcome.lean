/-!
# Outcomes of computations on machine words

A computation of this library yields a value, fails with an error that its caller can report, or
halts because the machine could not carry it out: a number left its word, or room could not be
reserved. `Outcome` keeps the three apart, so that "never halts" is a statement of its own. A
computation in steps fails with an error of a given kind if each of its steps does, and never halts
if none of its steps does. Main statements: `FailsOnly.bind` and `bind_ne_halt`.
-/

namespace FuncMeta

universe u v w

/-- What a computation on machine words comes to. -/
inductive Outcome (ε : Type u) (α : Type v) where
  /-- The computation yields a value. -/
  | ok (value : α)
  /-- The computation fails with an error of its domain. -/
  | error (failure : ε)
  /-- The machine cannot carry the computation out. -/
  | halt
deriving DecidableEq, Repr

namespace Outcome

variable {ε : Type u} {ε' : Type w} {α β : Type v}

/-- Runs `f` on the value; a failure and a halt stay what they are. -/
def bind (x : Outcome ε α) (f : α → Outcome ε β) : Outcome ε β :=
  match x with
  | ok a => f a
  | error e => error e
  | halt => halt

instance : Monad (Outcome ε) where
  pure := ok
  bind := bind

/-- The computation of a value yields that value. -/
@[simp] theorem pure_def (a : α) : (pure a : Outcome ε α) = ok a := rfl

/-- Behind a value the rest runs on it. -/
@[simp] theorem ok_bind (a : α) (f : α → Outcome ε β) : (ok a >>= f) = f a := rfl

/-- Behind a failure nothing runs. -/
@[simp] theorem error_bind (e : ε) (f : α → Outcome ε β) :
    ((error e : Outcome ε α) >>= f) = error e := rfl

/-- Behind a halt nothing runs. -/
@[simp] theorem halt_bind (f : α → Outcome ε β) : ((halt : Outcome ε α) >>= f) = halt := rfl

instance : LawfulMonad (Outcome ε) :=
  LawfulMonad.mk' _ (fun x ↦ by cases x <;> rfl) (fun _ _ ↦ rfl)
    (fun x _ _ ↦ by cases x <;> rfl)

/-- A function is applied to the value, if there is one. -/
@[simp] theorem map_ok (f : α → β) (a : α) : (f <$> (ok a : Outcome ε α)) = ok (f a) := rfl

/-- Applying a function leaves a failure as it is. -/
@[simp] theorem map_error (f : α → β) (e : ε) :
    (f <$> (error e : Outcome ε α)) = error e := rfl

/-- Applying a function leaves a halt as it is. -/
@[simp] theorem map_halt (f : α → β) : (f <$> (halt : Outcome ε α)) = halt := rfl

/-- A run gives a value exactly when its first step does and the rest does on that value. -/
theorem bind_eq_ok_iff {x : Outcome ε α} {f : α → Outcome ε β} {b : β} :
    (x >>= f) = ok b ↔ ∃ a, x = ok a ∧ f a = ok b := by
  cases x <;> simp

/-- A run fails exactly when its first step does, or the rest does on the first step's value. -/
theorem bind_eq_error_iff {x : Outcome ε α} {f : α → Outcome ε β} {e : ε} :
    (x >>= f) = error e ↔ x = error e ∨ ∃ a, x = ok a ∧ f a = error e := by
  cases x <;> simp

/-- A run halts exactly when its first step does, or the rest does on the first step's value. -/
theorem bind_eq_halt_iff {x : Outcome ε α} {f : α → Outcome ε β} :
    (x >>= f) = halt ↔ x = halt ∨ ∃ a, x = ok a ∧ f a = halt := by
  cases x <;> simp

/-- The same outcome with its failure restated. -/
def mapError (f : ε → ε') (x : Outcome ε α) : Outcome ε' α :=
  match x with
  | ok a => ok a
  | error e => error (f e)
  | halt => halt

/-- Restating failures leaves a value as it is. -/
@[simp] theorem mapError_ok (f : ε → ε') (a : α) :
    (ok a : Outcome ε α).mapError f = ok a := rfl

/-- A failure is restated by the given function. -/
@[simp] theorem mapError_error (f : ε → ε') (e : ε) :
    (error e : Outcome ε α).mapError f = error (f e) := rfl

/-- Restating failures leaves a halt as it is. -/
@[simp] theorem mapError_halt (f : ε → ε') : (halt : Outcome ε α).mapError f = halt := rfl

/-- The outcome of a computation that needs no machine word. -/
def ofExcept : Except ε α → Outcome ε α
  | .ok a => ok a
  | .error e => error e

/-- A value stays the same value. -/
@[simp] theorem ofExcept_ok (a : α) : ofExcept (Except.ok a : Except ε α) = ok a := rfl

/-- A failure stays the same failure. -/
@[simp] theorem ofExcept_error (e : ε) :
    ofExcept (Except.error e : Except ε α) = error e := rfl

/-- A computation that needs no machine word yields the values that it gives, and no others. -/
theorem ofExcept_eq_ok_iff {x : Except ε α} {a : α} : ofExcept x = ok a ↔ x = .ok a := by
  cases x <;> simp

/-- A computation that needs no machine word fails with its own failures, and no others. -/
theorem ofExcept_eq_error_iff {x : Except ε α} {e : ε} :
    ofExcept x = error e ↔ x = .error e := by
  cases x <;> simp

/-- A computation that needs no machine word never halts. -/
@[simp] theorem ofExcept_ne_halt (x : Except ε α) : ofExcept x ≠ halt := by
  cases x <;> simp [ofExcept]

/-- A value is no halt. -/
theorem ok_ne_halt (a : α) : (.ok a : Outcome ε α) ≠ .halt := nofun

/-- A failure is no halt. -/
theorem error_ne_halt (e : ε) : (.error e : Outcome ε α) ≠ .halt := nofun

/-- A computation fails, if at all, with an error of the given kind. -/
def FailsOnly (isKind : ε → Prop) (x : Outcome ε α) : Prop := ∀ e, x = .error e → isKind e

namespace FailsOnly

variable {isKind : ε → Prop} {isKind' : ε' → Prop} {x : Outcome ε α}

/-- A value is no failure of any kind. -/
theorem ok (a : α) : FailsOnly isKind (.ok a) := nofun

/-- A halt is no failure of any kind. -/
theorem halt : FailsOnly isKind (.halt : Outcome ε α) := nofun

/-- A failure of the given kind is of that kind only. -/
theorem error {e : ε} (he : isKind e) : FailsOnly isKind (.error e : Outcome ε α) := by
  rintro _ ⟨⟩
  exact he

/-- Two steps fail with errors of one kind if each of them does. -/
theorem bind {f : α → Outcome ε β} (h : FailsOnly isKind x)
    (hf : ∀ a, x = .ok a → FailsOnly isKind (f a)) : FailsOnly isKind (x >>= f) := by
  intro e he
  rcases bind_eq_error_iff.mp he with he | ⟨a, ha, he⟩
  · exact h e he
  · exact hf a ha e he

/-- Applying a function to the value adds no failures. -/
theorem map {f : α → β} (h : FailsOnly isKind x) : FailsOnly isKind (f <$> x) := by
  cases x with
  | ok a => exact .ok _
  | error e => exact .error (h e rfl)
  | halt => exact .halt

/-- Restated failures are of the kind that failures are restated to. -/
theorem mapError {f : ε → ε'} (h : FailsOnly isKind x) (hf : ∀ e, isKind e → isKind' (f e)) :
    FailsOnly isKind' (x.mapError f) := by
  cases x with
  | ok a => exact .ok _
  | error e => exact .error (hf e (h e rfl))
  | halt => exact .halt

/-- Errors of one kind are errors of any wider one. -/
theorem mono {isWider : ε → Prop} (h : FailsOnly isKind x) (hle : ∀ e, isKind e → isWider e) :
    FailsOnly isWider x :=
  fun e he ↦ hle e (h e he)

end FailsOnly

/-- Two steps do not halt if neither of them does. -/
theorem bind_ne_halt {x : Outcome ε α} {f : α → Outcome ε β} (h : x ≠ .halt)
    (hf : ∀ a, x = .ok a → f a ≠ .halt) : x >>= f ≠ .halt := by
  intro hhalt
  rcases bind_eq_halt_iff.mp hhalt with hx | ⟨a, ha, hfa⟩
  · exact h hx
  · exact hf a ha hfa

/-- Applying a function to the value does not halt. -/
theorem map_ne_halt {x : Outcome ε α} {f : α → β} (h : x ≠ .halt) : f <$> x ≠ .halt := by
  cases x with
  | ok a => exact ok_ne_halt _
  | error e => exact error_ne_halt _
  | halt => exact absurd rfl h

/-- Restating failures does not halt. -/
theorem mapError_ne_halt {x : Outcome ε α} {f : ε → ε'} (h : x ≠ .halt) :
    x.mapError f ≠ .halt := by
  cases x with
  | ok a => exact ok_ne_halt _
  | error e => exact error_ne_halt _
  | halt => exact absurd rfl h

end Outcome

end FuncMeta
