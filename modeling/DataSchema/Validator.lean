import DataSchema.Validate.Combine
import DataSchema.Validate.Container
import DataSchema.Validate.Reference
import DataSchema.Validate.Scalar

/-!
# Validators

A `Validator` holds what validates data against schemas of each type, and dispatches by the type
of a schema; types can be added to the nine that are built in.

A schema is a finite tree, and references are followed up to a limit only, which bounds the depth
to which dispatching recurs; beyond the bound the answer is an error of its own.
-/

namespace DataSchema

/-- What validates data against schemas of one type. -/
abbrev TypeValidator := Validate.Context → Schema → Option Json → Validate.Run

namespace TypeValidator

/-- A type whose schemas hold no others. -/
def scalar (validate : Schema → Option Json → Noted (Option Json)) : TypeValidator :=
  fun _ s data => .ofNoted (validate s data)

/-- A type whose schemas hold or name others. -/
def composite (validate : Validate.Context → Schema → Option Json → Validating (Option Json)) :
    TypeValidator :=
  fun ctx s data => .ofStep (validate ctx s data)

/-- The built-in types. -/
def builtin : Dict TypeValidator :=
  [("array", composite Validate.array),
   ("boolean", scalar Validate.boolean),
   ("combine", composite Validate.combine),
   ("integer", scalar Validate.integer),
   ("null", scalar Validate.null),
   ("number", scalar Validate.number),
   ("object", composite Validate.object),
   ("ref", composite Validate.reference),
   ("string", scalar Validate.string)]

end TypeValidator

/-- Validators by the names of their types. -/
structure Validator where
  types : Dict TypeValidator
  options : ValidatorOptions

namespace TopSchema

/-- A bound on the heights of the body and of all definitions. -/
def height (top : TopSchema) : Nat :=
  top.definitions.foldl (fun h d => max h d.2.schema.height) top.schema.height

end TopSchema

namespace Validator

/-- A validator without any type. -/
def empty (options : ValidatorOptions) : Validator := { types := [], options }

/-- A validator with the built-in types. -/
def builtin (options : ValidatorOptions) : Validator := { types := TypeValidator.builtin, options }

def has (v : Validator) (typeName : String) : Bool := v.types.contains typeName

/-- Sets the validator of a type. -/
def replace (v : Validator) (typeName : String) (t : TypeValidator) : Validator :=
  { v with types := v.types.insert typeName t }

/-- Sets the validator of a type that has none yet. -/
def register (v : Validator) (typeName : String) (t : TypeValidator) : Validator :=
  if v.has typeName then v else v.replace typeName t

/-- The validator on one line, for a reader who debugs. -/
def shown (v : Validator) : String :=
  "ValidatorMaster \x7b types: [" ++ ", ".intercalate (v.types.keys.map Text.quoted) ++
    "], options: " ++ v.options.shown ++ " \x7d"

/-- Validates data against a schema, with a bound on the depth. References are looked up in a whole
schema, if there is one. -/
def validateWithin (v : Validator) (top : Option TopSchema) :
    Nat → Schema → Option Json → Validate.Run
  | 0, _, _ => .failed .tooDeep
  | fuel + 1, s, data => match v.types.get? s.typeName with
    | none => .failed (.of "type" ("unknown schema type: " ++ s.typeName ++ "."))
    | some t =>
      let ctx : Validate.Context :=
        { options := v.options
          target? := fun reference =>
            top.bind (·.definition? reference v.options.definitionPathPrefix)
          nested := v.validateWithin top fuel }
      t ctx s data

/-- A bound on the depth to which validating recurs: a schema is walked down before each reference
that is followed, and once more. -/
def depthBound (v : Validator) (height : Nat) : Nat :=
  (v.options.maxRefDepth.toNat + 1) * height

/-- Validates data against a whole schema. -/
def validate (v : Validator) (top : TopSchema) (data : Option Json) : Outcome Json :=
  (v.validateWithin (some top) (v.depthBound top.height) top.schema data 0).1

/-- Validates data against a schema on its own, in which no reference names anything. -/
def validateNode (v : Validator) (s : Schema) (data : Option Json) : Outcome Json :=
  (v.validateWithin none s.height s data 0).1

end Validator

end DataSchema
