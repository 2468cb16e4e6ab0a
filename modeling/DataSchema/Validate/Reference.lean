import DataSchema.Validate.Basic

/-!
# Validating references

A reference has a default and a required flag of its own; data that is there is validated against
what the reference names.
-/

namespace DataSchema.Validate

def reference (ctx : Context) (s : Schema) (data : Option Json) : Validating (Option Json) :=
  match s.kind with
  | .ref name => do
    match ← given s data with
    | none => return none
    | some value => Step.merge (ctx.follow name (some value))
  | _ => reject (mismatch "ref" s)

end DataSchema.Validate
