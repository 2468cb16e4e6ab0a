import DataSchema.Diagnostic

/-!
# Outcomes

Compiling and validating never stop at the first fault. An `Outcome` is a value, if one was found,
with the errors and warnings met on the way; the value is hidden while there is an error. `Noted`
is the same for a step on the way, whose result is always there; steps are put together in its
monad, which keeps diagnostics in order.
-/

namespace DataSchema

/-- An optional value with errors and warnings. -/
structure Outcome (α : Type) where
  /-- The value as it was stored, whether or not there are errors. -/
  stored : Option α
  errors : List Diagnostic
  warnings : List Diagnostic
deriving Inhabited

namespace Outcome

variable {α β : Type}

def empty : Outcome α := { stored := none, errors := [], warnings := [] }

/-- A value without diagnostics. -/
def ofValue (value : α) : Outcome α := { stored := some value, errors := [], warnings := [] }

/-- A single error. -/
def ofError (error : Diagnostic) : Outcome α :=
  { stored := none, errors := [error], warnings := [] }

def hasError (o : Outcome α) : Bool := !o.errors.isEmpty

def hasWarning (o : Outcome α) : Bool := !o.warnings.isEmpty

/-- The value, hidden while there is an error. -/
def value? (o : Outcome α) : Option α := if o.hasError then none else o.stored

def setValue (o : Outcome α) (value : α) : Outcome α := { o with stored := some value }

def clearValue (o : Outcome α) : Outcome α := { o with stored := none }

def addError (o : Outcome α) (error : Diagnostic) : Outcome α :=
  { o with errors := o.errors ++ [error] }

def addWarning (o : Outcome α) (warning : Diagnostic) : Outcome α :=
  { o with warnings := o.warnings ++ [warning] }

/-- Appends the diagnostics of another outcome. -/
def merge (o : Outcome α) (other : Outcome β) : Outcome α :=
  { o with errors := o.errors ++ other.errors, warnings := o.warnings ++ other.warnings }

/-- One diagnostic with the given causes; without causes there is none. -/
def wrap (constraint : String) (property reason : Option String) (traces : List Diagnostic) :
    List Diagnostic :=
  match traces with
  | [] => []
  | traces =>
    [{ constraint, property, reason := reason.getD (Diagnostic.summary traces), traces }]

/-- Appends the diagnostics of a part: its errors as the causes of one error, and its warnings as
those of one warning. Without a reason the causes are summed up. -/
def attach (o : Outcome α) (constraint : String) (part : Outcome β) (property : Option String)
    (reason : Option String) : Outcome α :=
  { o with
    errors := o.errors ++ wrap constraint property reason part.errors
    warnings := o.warnings ++ wrap constraint property reason part.warnings }

def map (f : α → β) (o : Outcome α) : Outcome β :=
  { stored := o.stored.map f, errors := o.errors, warnings := o.warnings }

/-- Whether two outcomes have the same diagnostics and, up to a relation, the same value. -/
def same (sameValue : Option α → Option α → Bool) (o other : Outcome α) : Bool :=
  sameValue o.stored other.stored && Diagnostic.sameAll o.errors other.errors &&
    Diagnostic.sameAll o.warnings other.warnings

def flatErrors (o : Outcome α) : List FlatDiagnostic := Diagnostic.flattenAll o.errors

def flatWarnings (o : Outcome α) : List FlatDiagnostic := Diagnostic.flattenAll o.warnings

def errorSummary (o : Outcome α) : String := Diagnostic.summary o.errors

def warningSummary (o : Outcome α) : String := Diagnostic.summary o.warnings

end Outcome

/-- A result with the errors and warnings met on the way to it. -/
structure Noted (α : Type) where
  result : α
  errors : List Diagnostic
  warnings : List Diagnostic

namespace Noted

variable {α β : Type}

protected def pure (result : α) : Noted α := { result, errors := [], warnings := [] }

protected def bind (x : Noted α) (f : α → Noted β) : Noted β :=
  let y := f x.result
  { y with errors := x.errors ++ y.errors, warnings := x.warnings ++ y.warnings }

instance : Monad Noted where
  pure := Noted.pure
  bind := Noted.bind

def error (d : Diagnostic) : Noted Unit := { result := (), errors := [d], warnings := [] }

def warning (d : Diagnostic) : Noted Unit := { result := (), errors := [], warnings := [d] }

/-- The diagnostics of an outcome, and its value as far as it is not hidden. -/
def merged (o : Outcome α) : Noted (Option α) :=
  { result := o.value?, errors := o.errors, warnings := o.warnings }

/-- The diagnostics of a part under a constraint, and its value as far as it is not hidden. -/
def attached (constraint : String) (part : Outcome α) (property : Option String) :
    Noted (Option α) :=
  { result := part.value?
    errors := Outcome.wrap constraint property none part.errors
    warnings := Outcome.wrap constraint property none part.warnings }

def toOutcome (x : Noted (Option α)) : Outcome α :=
  { stored := x.result, errors := x.errors, warnings := x.warnings }

@[simp] theorem pure_def (a : α) : (pure a : Noted α) = ⟨a, [], []⟩ := rfl

theorem bind_def (x : Noted α) (f : α → Noted β) :
    x >>= f = ⟨(f x.result).result, x.errors ++ (f x.result).errors,
      x.warnings ++ (f x.result).warnings⟩ := rfl

instance : LawfulMonad Noted := LawfulMonad.mk' Noted
  (fun x => by simp [Functor.map, Noted.bind, Noted.pure])
  (fun a f => by simp [bind_def])
  (fun x f g => by simp [bind_def, List.append_assoc])

end Noted

end DataSchema
