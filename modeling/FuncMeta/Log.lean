import FuncMeta.Outcome

/-!
# Logs

What a run has to tell besides its result. A computation that tells something keeps what it has told
when it fails. What it tells has no part in what it comes to: the outcome of several steps, or of
one step for each element of a list, is that of the steps without what they tell. Main statements:
`outcome_bind` and `outcome_mapM`.
-/

namespace FuncMeta

/-- How severe a record is. -/
inductive LogLevel where
  /-- The run cannot go on. -/
  | error
  /-- The result may not be what was wanted. -/
  | warn
  /-- The run goes on as expected. -/
  | info
  /-- What a step came to. -/
  | debug
  /-- Each small step. -/
  | trace
deriving DecidableEq, Repr

namespace LogLevel

/-- The place of a level, the most severe one first. -/
def rank : LogLevel → Nat
  | error => 1
  | warn => 2
  | info => 3
  | debug => 4
  | trace => 5

/-- The name of a level in a log. -/
def name : LogLevel → String
  | error => "ERROR"
  | warn => "WARN"
  | info => "INFO"
  | debug => "DEBUG"
  | trace => "TRACE"

end LogLevel

/-- A line of a log. -/
structure LogRecord where
  /-- How severe it is. -/
  level : LogLevel
  /-- What it says. -/
  text : String
deriving DecidableEq, Repr

/-- The least severe level that is logged, if any is. -/
structure Verbosity where
  /-- The level. -/
  least : Option LogLevel
deriving DecidableEq, Repr

namespace Verbosity

/-- The verbosity with a name, which is in lower case. -/
def ofName? : String → Option Verbosity
  | "off" => some ⟨none⟩
  | "error" => some ⟨some .error⟩
  | "warn" => some ⟨some .warn⟩
  | "info" => some ⟨some .info⟩
  | "debug" => some ⟨some .debug⟩
  | "trace" => some ⟨some .trace⟩
  | _ => none

/-- Whether records of a level are logged. -/
def admits (v : Verbosity) (level : LogLevel) : Bool :=
  v.least.any fun least ↦ level.rank ≤ least.rank

/-- The records that are logged. -/
def select (v : Verbosity) (records : List LogRecord) : List LogRecord :=
  records.filter fun record ↦ v.admits record.level

end Verbosity

universe u

/-- A computation together with what it tells. -/
structure Told (ε α : Type u) where
  /-- What it tells, in order. -/
  log : List LogRecord
  /-- What it comes to. -/
  outcome : Outcome ε α

namespace Told

variable {ε α β γ : Type u}

/-- Goes on with the value, if there is one, and tells what both steps tell. -/
def bind (x : Told ε α) (f : α → Told ε β) : Told ε β :=
  match x.outcome with
  | .ok a =>
    let y := f a
    { log := x.log ++ y.log, outcome := y.outcome }
  | .error e => { log := x.log, outcome := .error e }
  | .halt => { log := x.log, outcome := .halt }

instance : Monad (Told ε) where
  pure a := { log := [], outcome := .ok a }
  bind := bind

/-- A computation that tells nothing. -/
def silent (x : Outcome ε α) : Told ε α where
  log := []
  outcome := x

/-- A computation that fails or not and tells nothing. -/
def ofExcept (x : Except ε α) : Told ε α := silent (.ofExcept x)

/-- A failure. -/
def fail (e : ε) : Told ε α := silent (.error e)

/-- A value comes to itself. -/
@[simp] theorem outcome_pure (a : α) : (pure a : Told ε α).outcome = .ok a := rfl

/-- A computation that tells nothing comes to what it is. -/
@[simp] theorem outcome_ofExcept (x : Except ε α) :
    (ofExcept x).outcome = Outcome.ofExcept x := rfl

/-- Two steps come to what they come to without what they tell. -/
@[simp] theorem outcome_bind (x : Told ε α) (f : α → Told ε β) :
    (x >>= f).outcome = x.outcome >>= fun a ↦ (f a).outcome := by
  show (Told.bind x f).outcome = _
  rw [Told.bind]
  cases x.outcome <;> rfl

private theorem pure_bind' (a : α) (f : α → Told ε β) : (pure a >>= f) = f a := by
  show ({ log := [] ++ (f a).log, outcome := (f a).outcome } : Told ε β) = f a
  rw [List.nil_append]

private theorem bind_pure' (x : Told ε α) : (x >>= fun a ↦ pure a) = x := by
  obtain ⟨log, outcome⟩ := x
  cases outcome with
  | ok a =>
    show ({ log := log ++ [], outcome := .ok a } : Told ε α) = _
    rw [List.append_nil]
  | error e => rfl
  | halt => rfl

private theorem bind_assoc' (x : Told ε α) (f : α → Told ε β) (g : β → Told ε γ) :
    (x >>= f >>= g) = x >>= fun a ↦ f a >>= g := by
  obtain ⟨log, outcome⟩ := x
  cases outcome with
  | ok a =>
    show Told.bind (Told.bind { log, outcome := .ok a } f) g =
      Told.bind { log, outcome := .ok a } fun a ↦ Told.bind (f a) g
    simp only [Told.bind]
    cases (f a).outcome with
    | ok b => simp only [List.append_assoc]
    | error e => rfl
    | halt => rfl
  | error e => rfl
  | halt => rfl

instance : LawfulMonad (Told ε) := LawfulMonad.mk' _ bind_pure' pure_bind' bind_assoc'

/-- What becomes of a list, element by element, does not depend on what is told on the way. -/
theorem outcome_mapM (f : α → Told ε β) (as : List α) :
    (as.mapM f).outcome = as.mapM fun a ↦ (f a).outcome := by
  induction as with
  | nil => rfl
  | cons a as ih =>
    simp only [List.mapM_cons, outcome_bind, ih, outcome_pure]
    rfl

end Told

end FuncMeta
