import DataSchema.Compile.Basic

/-!
# Compiling definitions and whole schemas

All definitions of a schema are registered before any is compiled, so they may refer to each other
in any order. The schema itself is registered under its own id, and counts as being compiled for
the whole time.
-/

namespace DataSchema.Compile

open Step

/-- The id that a raw schema gives itself. -/
def ownId (raw : RawSchema) : Noted (Option String) :=
  coerced "$id" (Coerce.string none (raw.get? "$id"))

/-- Compiles the definition at a path. -/
def definition (ctx : Context) (path : String) : Compiling (Option DefinitionSchema) := do
  match (← get).raw? path with
  | none =>
    noteError (.of "$ref" (RegistryError.notFound path).message)
    return none
  | some raw =>
    let id ← ownId raw
    modify (·.mark path .compiling)
    let body ← merge (ctx.nested raw)
    modify (·.mark path .finished)
    return body.map fun schema => { id, schema }

/-- Registers something, or notes why that fails. -/
def register (path : String) (raw : RawSchema) (id : Option String)
    (complaint : RegistryError → Diagnostic) : Compiling Bool := do
  match (← get).add path raw id with
  | .ok registry =>
    set registry
    return true
  | .error e =>
    noteError (complaint e)
    return false

/-- Registers definitions, and gives name and path of those that are. -/
def registerEach (ctx : Context) : List (String × Json) → Compiling (List (String × String))
  | [] => return []
  | (name, raw) :: rest => do
    match normalize raw with
    | .error d =>
      noteError (d.withProperty name)
      registerEach ctx rest
    | .ok fields =>
      let path := ctx.definitionPath name
      let registered ← register path fields ((fields.get? "$id").bind Json.str?) fun e =>
        (Diagnostic.of "definitions" e.message).withProperty name
      let others ← registerEach ctx rest
      return if registered then (name, path) :: others else others

/-- Registers the definitions of a raw schema. -/
def registerDefinitions (ctx : Context) (raw : RawSchema) :
    Compiling (List (String × String)) :=
  match raw.get? "definitions" with
  | none | some .null => return []
  | some (.obj fields) => registerEach ctx fields
  | some other => do
    noteError (.of "definitions"
      ("definitions must be an object, but got (" ++ Json.shown (some other) ++ ")."))
    return []

/-- Compiles definitions, given by name and path; those that fail are left out. -/
def definitions (ctx : Context) : List (String × String) → Compiling (Dict DefinitionSchema)
  | [] => return []
  | (name, path) :: rest => do
    let compiled ← attach "definitions" (.ofStep (definition ctx path)) (some name)
    let others ← definitions ctx rest
    return match compiled with
      | some d => (name, d) :: others
      | none => others

/-- Registers a schema under its own id. -/
def registerTop (id : Option String) (raw : RawSchema) : Compiling Unit :=
  match id with
  | none => return ()
  | some i => do
    let registered ← register i raw (some i) fun e => .of "$id" e.message
    if registered then modify (·.mark i .compiling)

/-- Compiles a whole schema. -/
def top (ctx : Context) (raw : Json) : Compiling (Option TopSchema) := do
  match normalize raw with
  | .error d =>
    noteError d
    return none
  | .ok fields =>
    let id ← ownId fields
    registerTop id fields
    let names ← registerDefinitions ctx fields
    let definitions ← definitions ctx names
    let body ← merge (ctx.nested fields)
    return body.map fun schema => { id, definitions, schema }

end DataSchema.Compile
