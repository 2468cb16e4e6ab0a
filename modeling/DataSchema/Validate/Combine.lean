import DataSchema.Validate.Basic

/-!
# Validating combinations

Each group gives an outcome of its own: `allOf` passes data through its members one after the
other, `anyOf` takes the first member that accepts the data, and `oneOf` wants exactly one such
member. The strategy says how many groups have to pass. What members that fail say is reported if
their group fails.
-/

namespace DataSchema.Validate

/-- An outcome with the diagnostics of one member. -/
def memberOutcome (group : String) (i : Nat) (part : Outcome Json) : Outcome Json :=
  Outcome.empty.attach group part (some (toString i)) none

/-- Gives every member what the one before it made of the data. -/
def allOf (ctx : Context) : Nat → Json → List Schema → Following (Outcome Json)
  | _, current, [] => return .ofValue current
  | i, current, member :: rest => do
    let part ← ctx.nested member (some current)
    let outcome := memberOutcome "allOf" i part
    if part.hasError then
      return outcome.addError (.of "allOf" "not matched all of the schemas defined in allOf.")
    else
      let others ← allOf ctx (i + 1) (part.value?.getD current) rest
      return { others with warnings := outcome.warnings ++ others.warnings }

/-- Takes the first member that accepts the data. -/
def anyOf (ctx : Context) (data : Json) : Nat → List Schema → Following (Outcome Json)
  | _, [] => return .ofError (.of "anyOf" "not matched any of the schemas defined in anyOf.")
  | i, member :: rest => do
    let part ← ctx.nested member (some data)
    let outcome := memberOutcome "anyOf" i part
    if part.hasError then
      let others ← anyOf ctx data (i + 1) rest
      return if others.hasError then outcome.merge others else others
    else return outcome.setValue (part.value?.getD data)

/-- What each member says of the data. -/
def memberOutcomes (ctx : Context) (data : Json) : List Schema → Following (List (Outcome Json))
  | [] => return []
  | member :: rest => do
    let part ← ctx.nested member (some data)
    return part :: (← memberOutcomes ctx data rest)

/-- Joins the diagnostics of members of `oneOf`. -/
def joined (parts : List (Outcome Json × Nat)) : Outcome Json :=
  parts.foldl (fun o part => o.merge (memberOutcome "oneOf" part.2 part.1)) .empty

/-- Wants exactly one member that accepts the data. -/
def exactlyOne (data : Json) (parts : List (Outcome Json)) : Outcome Json :=
  let (failing, passing) := parts.zipIdx.partition fun part => part.1.hasError
  match passing with
  | [(part, _)] => (joined passing).setValue (part.value?.getD data)
  | _ => ((joined passing).merge (joined failing)).addError
    (.of "oneOf" ("expected to match exactly one of the schemas defined in oneOf, but matched " ++
      toString passing.length ++ "."))

def oneOf (ctx : Context) (data : Json) (members : List Schema) :
    Following (Outcome Json) := do
  return exactlyOne data (← memberOutcomes ctx data members)

/-- The outcome of a group, if it has members. -/
def groupOutcome (group : Option (List Schema)) (run : List Schema → Run) :
    Following (List (Outcome Json)) :=
  match group with
  | none | some [] => return []
  | some members => do return [← run members]

/-- The outcomes of all groups that have members. -/
def groups (ctx : Context) (c : CombineSchema) (data : Json) :
    Following (List (Outcome Json)) := do
  let all ← groupOutcome c.allOf (allOf ctx 0 data)
  let any ← groupOutcome c.anyOf (anyOf ctx data 0)
  let one ← groupOutcome c.oneOf (oneOf ctx data)
  return all ++ any ++ one

/-- Why a strategy is not content with the number of groups that pass. -/
def strategyFault? (strategy : CombineStrategy) (groups passing : Nat) : Option String :=
  match strategy with
  | .all => if passing = groups then none else some "not matched all of [allOf, anyOf, oneOf]."
  | .any => if passing = 0 then some "not matched any of [allOf, anyOf, oneOf]." else none
  | .one =>
    if passing = 1 then none
    else some ("expected to match exactly one of [allOf, anyOf, oneOf], but matched " ++
      toString passing ++ ".")

/-- Joins the outcomes of groups. The value is that of the first group that passes. -/
def joinGroups (strategy : CombineStrategy) (data : Json) (outcomes : List (Outcome Json)) :
    Outcome Json :=
  let passing := outcomes.filter fun o => !o.hasError
  match strategyFault? strategy outcomes.length passing.length with
  | some reason => (outcomes.foldl Outcome.merge .empty).addError (.of "strategy" reason)
  | none =>
    (passing.foldl Outcome.merge .empty).setValue ((passing.head?.bind (·.value?)).getD data)

/-- Validates data against all groups. -/
def grouped (ctx : Context) (c : CombineSchema) (data : Json) : Following (Outcome Json) := do
  return joinGroups c.strategy data (← groups ctx c data)

def combine (ctx : Context) (s : Schema) (data : Option Json) : Validating (Option Json) :=
  match s.kind with
  | .combine c => do
    match ← given s data with
    | none => return none
    | some value => Step.merge (grouped ctx c value)
  | _ => reject (mismatch "combine" s)

end DataSchema.Validate
