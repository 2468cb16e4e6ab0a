import DataSchema.Validate.Basic

/-!
# Validating arrays and objects

An object keeps its declared properties, the others whose name matches a pattern, and additional
ones as far as they are allowed; an additional property that is dropped gives a warning. What
properties depend on is checked on the result.
-/

namespace DataSchema.Validate

open Step

/-! ## Arrays -/

/-- Whether two elements are the same. -/
def hasDuplicates : List Json → Bool
  | [] => false
  | x :: rest => rest.any (x.same ·) || hasDuplicates rest

/-- The elements in normal form; an element without data is `null`. -/
def elements (ctx : Context) (items : Schema) : Nat → List Json → Validating (List Json)
  | _, [] => return []
  | i, element :: rest => do
    let value ← attach "items" (ctx.nested items (some element)) (some (toString i))
    return value.getD .null :: (← elements ctx items (i + 1) rest)

def notUnique (values : List Json) : Diagnostic :=
  .of "unique" ("expected a unique array, but got (" ++ Json.shown (some (.arr values)) ++ ").")

def array (ctx : Context) (s : Schema) (data : Option Json) : Validating (Option Json) :=
  match s.kind with
  | .array items unique => do
    match ← given s data with
    | none => return none
    | some (.arr values) =>
      if unique && hasDuplicates values then reject (notUnique values)
      else return some (.arr (← elements ctx items 0 values))
    | some other => reject (unexpected "an array" other)
  | _ => reject (mismatch "array" s)

/-! ## Objects -/

/-- The schema of a property that is not declared, by the first pattern that its name matches. -/
def patternProperty? (o : ObjectSchema) (name : String) : Option Schema :=
  ((o.regexNameProperties.getD []).find? fun p => p.1.isMatch name).map (·.2)

def isDeclared (o : ObjectSchema) (name : String) : Bool :=
  Dict.contains (o.properties.getD []) name

/-- Adds a property that has a value. -/
def enter (output : Dict Json) (name : String) (value : Option Json) : Dict Json :=
  match value with
  | some v => output.insert name v
  | none => output

/-- Validates a property, and adds its value. -/
def property (ctx : Context) (schema : Schema) (name : String) (value : Option Json)
    (output : Dict Json) : Validating (Dict Json) := do
  return enter output name (← attach "properties" (ctx.nested schema value) (some name))

/-- The declared properties; one that is missing may have a default. -/
def declared (ctx : Context) (input : Dict Json) :
    List (String × Schema) → Dict Json → Validating (Dict Json)
  | [], output => return output
  | (name, schema) :: rest, output => do
    declared ctx input rest (← property ctx schema name (input.get? name) output)

/-- Notes that an additional property is dropped, unless that is to happen in silence. -/
def noteDropped (o : ObjectSchema) (d : Diagnostic) : Validating Unit := do
  if !o.silentIgnore then noteWarning d

/-- Whether an additional property is kept. -/
def keepsAdditional (ctx : Context) (o : ObjectSchema) (name : String) : Validating Bool := do
  if !o.allowAdditionalProperties then
    noteDropped o ((Diagnostic.of "properties"
      ("property(" ++ name ++ ") is not defined, ignored (allowAdditionalProperties is false)."))
      |>.withProperty name)
    return false
  match o.propertyNames with
  | none => return true
  | some names =>
    let checked ← quietly (ctx.nested names (some (.str name)))
    if !checked.hasError then return true
    noteDropped o ((Diagnostic.of "propertyNames"
      ("property(" ++ name ++ ") does not satisfy propertyNames, ignored."))
      |>.withProperty name |>.withTraces checked.errors)
    return false

/-- A property that is not declared. -/
def undeclared (ctx : Context) (o : ObjectSchema) (name : String) (value : Json)
    (output : Dict Json) : Validating (Dict Json) := do
  match patternProperty? o name with
  | some schema => property ctx schema name (some value) output
  | none => return if ← keepsAdditional ctx o name then output.insert name value else output

/-- The properties that are not declared. -/
def others (ctx : Context) (o : ObjectSchema) :
    List (String × Json) → Dict Json → Validating (Dict Json)
  | [], output => return output
  | (name, value) :: rest, output => do
    if isDeclared o name then others ctx o rest output
    else others ctx o rest (← undeclared ctx o name value output)

/-- An error for each property that is there without all it depends on. -/
def checkDependencies (output : Dict Json) : List (String × List String) → Noted Unit
  | [] => return ()
  | (name, needed) :: rest => do
    if !Json.isAbsent (output.get? name) then
      match needed.find? fun other => Json.isAbsent (output.get? other) with
      | none => pure ()
      | some missing => Noted.error ((Diagnostic.of "dependencies"
          (name ++ " depend on " ++ Json.shownTexts needed ++ ", but " ++ missing ++
            " is absent."))
          |>.withProperty name)
    checkDependencies output rest

/-- All properties in normal form. -/
def fields (ctx : Context) (o : ObjectSchema) (input : Dict Json) : Validating (Dict Json) := do
  others ctx o input (← declared ctx input (o.properties.getD []) [])

/-- Dependencies are checked if there is no other error. -/
def object (ctx : Context) (s : Schema) (data : Option Json) : Validating (Option Json) :=
  match s.kind with
  | .object o => do
    match ← given s data with
    | none => return none
    | some (.obj input) =>
      match ← merge (.ofStep (some <$> fields ctx o input)) with
      | none => return none
      | some output =>
        checkDependencies output (o.dependencies.getD [])
        return some (.obj output)
    | some other => reject (unexpected "an object" other)
  | _ => reject (mismatch "object" s)

end DataSchema.Validate
