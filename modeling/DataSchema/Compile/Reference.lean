import DataSchema.Compile.Basic

/-!
# Compiling references

A reference names a definition, and its other fields override those of the definition. A
definition that is not being compiled is compiled in place of the reference, with the overrides.
A reference to one that is being compiled is recursive and stays; it can override only whether
data is required and what its default is. A definition that is itself a reference and leads back
to itself is circular.
-/

namespace DataSchema.Compile

open Step

/-- The fields that override the definition. -/
def overrides (raw : RawSchema) : RawSchema :=
  raw.filter fun field => field.1 ≠ "type" && field.1 ≠ "$ref"

/-- The overrides that a recursive reference cannot have: all that would change the definition,
other than `required` and `default`. -/
def rejectedOverrides (target overrides : RawSchema) : List String :=
  Dict.keys (overrides.filter fun field =>
    field.1 ≠ "required" && field.1 ≠ "default" &&
      !Json.sameOption (target.get? field.1) (some field.2))

/-- The definition that a reference names: its path, its raw schema and its state. -/
def target? (registry : Registry) (reference : String) :
    Option (String × RawSchema × DefinitionState) := do
  let path ← registry.resolve reference
  let raw ← registry.raw? path
  let state ← registry.state? path
  return (path, raw, state)

/-- A reference into a definition that is being compiled. -/
def recursive (reference : String) (target overrides : RawSchema) : Noted (Option Schema) := do
  match target.get? "type" with
  | some (.str "ref") =>
    Noted.error (.of "$ref" ("circular $ref(" ++ reference ++ ")."))
    return none
  | _ =>
    let rejected := rejectedOverrides target overrides
    if !rejected.isEmpty then
      Noted.error (.of "$ref"
        ("recursive $ref(" ++ reference ++
          ") only accepts required and default overrides, but got [" ++
          ", ".intercalate rejected ++ "]."))
      return none
    else
      let merged := inherit target overrides
      let required ← required merged
      return some { required, default := rawDefault merged, kind := .ref reference }

/-- Compiles a definition in place of a reference. It counts as being compiled meanwhile, and has
its state back afterwards. -/
def inlined (ctx : Context) (path : String) (state : DefinitionState) (merged : RawSchema) :
    Run Schema := fun registry =>
  let (outcome, registry) := ctx.nested merged (registry.mark path .compiling)
  (outcome, registry.mark path state)

def reference (ctx : Context) (raw : RawSchema) : Compiling (Option Schema) := do
  match raw.get? "$ref" with
  | some (.str name) =>
    if name = "" then notText (some (.str name))
    else match target? (← get) name with
      | none =>
        noteError (.of "$ref" ("no definition found for $ref(" ++ name ++ ")."))
        return none
      | some (path, target, state) =>
        if state = .compiling then recursive name target (overrides raw)
        else attach "$ref" (inlined ctx path state (inherit target (overrides raw))) none
  | other => notText other
where
  notText (given : Option Json) : Compiling (Option Schema) := do
    noteError (.of "$ref"
      ("$ref must be a non-empty string, but got (" ++ Json.shown given ++ ")."))
    return none

end DataSchema.Compile
