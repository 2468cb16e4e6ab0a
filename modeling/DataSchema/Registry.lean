import DataSchema.Json

/-!
# The registry of definitions

While a schema is compiled its definitions are registered by path and, where they have one, by id.
A definition is pending, being compiled, or finished; a reference to one that is being compiled is
recursive.
-/

namespace DataSchema

inductive DefinitionState where
  | pending
  | compiling
  | finished
deriving DecidableEq, Repr

/-- Why a definition cannot be registered or found. -/
inductive RegistryError where
  | duplicateId (id : String)
  | duplicatePath (path : String)
  | notFound (name : String)
deriving DecidableEq, Repr

def RegistryError.message : RegistryError → String
  | .duplicateId id => "$id(" ++ id ++ ") has existed"
  | .duplicatePath path => "$path(" ++ path ++ ") has existed"
  | .notFound name => "no definition registered under (" ++ name ++ ")"

namespace Registry

/-- A registered definition. -/
structure Entry where
  raw : Dict Json
  id : Option String
  state : DefinitionState

end Registry

/-- Definitions by path, and the paths of those with an id by their id. -/
structure Registry where
  entries : Dict Registry.Entry
  ids : Dict String

namespace Registry

def empty : Registry := { entries := [], ids := [] }

/-- Registers a definition. The path must be free, and an id must be neither the id nor the path of
another definition. -/
def add (r : Registry) (path : String) (raw : Dict Json) (id : Option String) :
    Except RegistryError Registry :=
  if r.entries.contains path then .error (.duplicatePath path)
  else
    let entry : Entry := { raw, id, state := .pending }
    match id with
    | none => .ok { r with entries := r.entries.insert path entry }
    | some i =>
      if r.ids.contains i || (i ≠ path && r.entries.contains i) then .error (.duplicateId i)
      else .ok { entries := r.entries.insert path entry, ids := r.ids.insert i path }

/-- The path of the definition with a path or an id. -/
def resolve (r : Registry) (name : String) : Option String :=
  if r.entries.contains name then some name else r.ids.get? name

def has (r : Registry) (name : String) : Bool := (r.resolve name).isSome

def raw? (r : Registry) (path : String) : Option (Dict Json) := (r.entries.get? path).map (·.raw)

def id? (r : Registry) (path : String) : Option String := (r.entries.get? path).bind (·.id)

def state? (r : Registry) (path : String) : Option DefinitionState :=
  (r.entries.get? path).map (·.state)

/-- Sets the state of a definition that is registered, and nothing else. -/
def mark (r : Registry) (path : String) (state : DefinitionState) : Registry :=
  { r with entries := r.entries.modify path fun e => { e with state } }

/-- Sets the state of a definition. -/
def setState (r : Registry) (path : String) (state : DefinitionState) :
    Except RegistryError Registry :=
  if r.entries.contains path then .ok (r.mark path state) else .error (.notFound path)

def finish (r : Registry) (path : String) : Except RegistryError Registry :=
  r.setState path .finished

def isFinished (r : Registry) (path : String) : Bool := r.state? path = some .finished

def paths (r : Registry) : List String := r.entries.keys

def size (r : Registry) : Nat := r.entries.length

end Registry

end DataSchema
