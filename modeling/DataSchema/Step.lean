import DataSchema.Outcome

/-!
# Steps with a state

A `Step` notes diagnostics and threads a state; a `Run` is finished, and gives an outcome. A step
takes up a run as a part of itself, either as it is or under a constraint.
-/

namespace DataSchema

variable {σ α : Type}

/-- A step that notes diagnostics and threads a state. -/
abbrev Step (σ : Type) := StateT σ Noted

/-- A run that gives an outcome and threads a state. -/
abbrev Run (σ α : Type) := StateM σ (Outcome α)

namespace Run

/-- Runs a step to its outcome. -/
def ofStep (step : Step σ (Option α)) : Run σ α := fun state =>
  let noted := step state
  ({ stored := noted.result.1, errors := noted.errors, warnings := noted.warnings },
    noted.result.2)

/-- Runs a step that has nothing to do with the state. -/
def ofNoted (step : Noted (Option α)) : Run σ α := fun state => (step.toOutcome, state)

/-- Ends with an error, and leaves the state as it is. -/
def failed (error : Diagnostic) : Run σ α := fun state => (.ofError error, state)

end Run

namespace Step

def noteError (d : Diagnostic) : Step σ Unit := monadLift (Noted.error d)

def noteWarning (d : Diagnostic) : Step σ Unit := monadLift (Noted.warning d)

/-- Notes the diagnostics of a part as they are, and gives its value unless it is hidden. -/
def merge (part : Run σ α) : Step σ (Option α) := fun state =>
  let (outcome, state) := part state
  let noted := Noted.merged outcome
  { noted with result := (noted.result, state) }

/-- Notes the diagnostics of a part under a constraint, and gives its value unless it is hidden. -/
def attach (constraint : String) (part : Run σ α) (property : Option String) :
    Step σ (Option α) := fun state =>
  let (outcome, state) := part state
  let noted := Noted.attached constraint outcome property
  { noted with result := (noted.result, state) }

/-- Runs a part without noting its diagnostics. -/
def quietly (part : Run σ α) : Step σ (Outcome α) := fun state => Noted.pure (part state)

end Step

end DataSchema
