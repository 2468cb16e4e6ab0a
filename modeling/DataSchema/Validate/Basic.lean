import DataSchema.Json.Writing
import DataSchema.Options
import DataSchema.Schema
import DataSchema.Step

/-!
# Validating data

Validating data against a schema gives the data in normal form: with defaults filled in, texts read
as the numbers they stand for, and undeclared properties left out. Data may be missing, and `null`
counts as missing except in schemas of kind `null`.

The state of a validation is the number of references that are being followed. Following one more
is an error at a limit, so that data is not needed for a recursive schema to end.
-/

namespace DataSchema

/-- A step that notes diagnostics, with the number of references that are being followed. -/
abbrev Validating := Step Nat

namespace Validate

/-- A computation that knows the number of references that are being followed. -/
abbrev Following := StateM Nat

/-- A run that gives data in normal form. -/
abbrev Run := DataSchema.Run Nat Json

/-- What a validation may use. -/
structure Context where
  options : ValidatorOptions
  /-- The schema that a reference names. -/
  target? : String → Option Schema
  /-- Validates data against a schema. -/
  nested : Schema → Option Json → Run

/-- Validates data against the schema that a reference names. -/
def Context.follow (ctx : Context) (reference : String) (data : Option Json) : Run := fun depth =>
  if ctx.options.maxRefDepth.toNat ≤ depth then
    (.ofError (.of "$ref"
      ("$ref(" ++ reference ++ ") nested deeper than the limit (" ++
        toString ctx.options.maxRefDepth ++ ").")), depth)
  else match ctx.target? reference with
    | none => (.ofError (.of "$ref" ("no definition found for $ref(" ++ reference ++ ").")), depth)
    | some target =>
      let (outcome, depth) := ctx.nested target data (depth + 1)
      (outcome, depth - 1)

/-- The data or, where it is missing, the default; an error if there is neither and the schema
requires data. -/
def given (s : Schema) (data : Option Json) : Noted (Option Json) :=
  match (Json.present data).or (Json.present s.default) with
  | some value => return some value
  | none => do
    if s.required then
      Noted.error (.of "required" ("required, but got (" ++ Json.shown data ++ ")."))
    return none

/-- The error on data that is not what a schema expects. -/
def unexpected (expected : String) (value : Json) : Diagnostic :=
  .of "type" ("expected " ++ expected ++ ", but got (" ++ Json.shown (some value) ++ ").")

/-- The error on a schema of one type that is given to the validator of another. -/
def mismatch (typeName : String) (s : Schema) : Diagnostic :=
  .of "type"
    ("schema of type (" ++ s.typeName ++ ") given to the " ++ typeName ++ " validator.")

/-- Ends a step with an error. -/
def reject (d : Diagnostic) : Noted (Option Json) := do
  Noted.error d
  return none

end Validate

end DataSchema
