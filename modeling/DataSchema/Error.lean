import DataSchema.Registry
import DataSchema.Schema.Form

/-!
# Errors

What is wrong with a schema or with data is a diagnostic. An `Error` is a failure of another kind,
which stops what was to be done.
-/

namespace DataSchema

inductive Error where
  /-- The JSON form of a schema cannot be read or written. -/
  | form (e : FormError)
  /-- A definition cannot be registered or found. -/
  | registry (e : RegistryError)
deriving DecidableEq, Repr

def Error.message : Error → String
  | .form e => "schema json error: " ++ e.message
  | .registry e => "registry error: " ++ e.message

end DataSchema
