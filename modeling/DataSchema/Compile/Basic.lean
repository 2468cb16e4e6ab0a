import DataSchema.Coerce
import DataSchema.Options
import DataSchema.Registry
import DataSchema.Schema
import DataSchema.Step

/-!
# Compiling raw schemas

A raw schema is a JSON object whose field `type` names its kind; a bare text is short for an object
with that type. Compiling one reads its fields and compiles the raw schemas in it.

`Compiling` is the monad of a compile step: it notes diagnostics and threads the registry of
definitions. A step compiles a nested raw schema through `Context.nested`, so that a step says
nothing about how deep schemas nest or which other kinds there are.
-/

namespace DataSchema

/-- A schema as it is written: the fields of an object. -/
abbrev RawSchema := Dict Json

/-- The schema `child`, with what it does not set taken from `parent`. A field that is `null` is
not set. -/
def inherit (parent child : RawSchema) : RawSchema :=
  child.foldl (fun merged field => if field.2.isNull then merged else merged.insert field.1 field.2)
    parent

/-- The fields of a raw schema, or why the value is none. -/
def normalize : Json → Except Diagnostic RawSchema
  | .str typeName => .ok [("type", .str typeName)]
  | .obj fields => .ok fields
  | other => .error (.of "type"
      ("schema must be an object or a type name, but got (" ++ Json.shown (some other) ++ ")."))

/-- A step that notes diagnostics and may change the registry. -/
abbrev Compiling := Step Registry

namespace Compile

/-- A run that gives an outcome and may change the registry. -/
abbrev Run := DataSchema.Run Registry

/-- What a compile step may use. -/
structure Context where
  options : CompilerOptions
  /-- Compiles the fields of a raw schema. -/
  nested : RawSchema → Run Schema

namespace Context

/-- The path of the definition with a name. -/
def definitionPath (ctx : Context) (name : String) : String :=
  ctx.options.definitionPathPrefix ++ name

/-- Compiles a raw schema in either form. -/
def compile (ctx : Context) (raw : Json) : Run Schema :=
  match normalize raw with
  | .ok fields => ctx.nested fields
  | .error d => .failed d

end Context

/-! ## Steps -/

variable {α : Type}

/-- The value of a field as it was coerced; a failure is noted under the name of the field. -/
def coerced (field : String) (c : Coerced α) : Noted (Option α) :=
  { result := c.value
    errors := if c.hasError then [.of field c.errorSummary] else []
    warnings := [] }

/-- A field that is a flag. -/
def flag (raw : RawSchema) (field : String) (default : Bool) : Noted Bool := do
  return (← coerced field (Coerce.boolean (some default) (raw.get? field))).getD false

/-- Whether data has to be there; by default it does not. -/
def required (raw : RawSchema) : Noted Bool := flag raw "required" false

/-- The default, unless it is missing or `null`. -/
def rawDefault (raw : RawSchema) : Option Json := Json.present (raw.get? "default")

/-- The default, which has to pass a test. -/
def checkedDefault (raw : RawSchema) (expected : String) (test : Json → Bool) :
    Noted (Option Json) :=
  match rawDefault raw with
  | none => return none
  | some value =>
    if test value then return some value
    else do
      Noted.error (.of "default"
        ("default must be " ++ expected ++ ", but got (" ++ Json.shown (some value) ++ ")."))
      return none

/-- A list without elements counts as no list. -/
def nonEmpty (list : List α) : Option (List α) := if list.isEmpty then none else some list

/-- A list field in which elements that cannot be read are left out. -/
def members (raw : RawSchema) (element : Coerce.Reader α) : Noted (Option (List α)) := do
  let values ← coerced "enum" (Coerce.array element none (raw.get? "enum"))
  return values.bind nonEmpty

end Compile

end DataSchema
