import DataSchema.Yaml

/-!
# YAML values as JSON

The JSON value of a YAML value is the same tree without tags. There is none if a number is not
finite or a key is no text; the error then names the first such node, by the path of keys and
indices that leads to it, and the mapping itself for a key.
-/

namespace DataSchema

/-- A node without JSON form. -/
structure ConversionError where
  /-- Keys and indices from the root to the node, joined by points. -/
  path : String
  reason : String
deriving DecidableEq, Repr

def ConversionError.message (e : ConversionError) : String := e.reason ++ " at (" ++ e.path ++ ")"

namespace Yaml

/-- A conversion that knows the path to the node at hand, its last step first. -/
abbrev Converting := StateT (List String) (Except ConversionError)

variable {α : Type}

/-- Fails at the node at hand. -/
def failHere (reason : String) : Converting α := do
  throw { path := ".".intercalate (← get).reverse, reason }

/-- Takes a step down for the time of a conversion. -/
def stepping (step : String) (conversion : Converting α) : Converting α := do
  modify (step :: ·)
  let a ← conversion
  modify List.tail
  return a

/-- A key as the error about it names it. -/
def keyText : Yaml → String
  | .null => "null"
  | .bool b => if b then "true" else "false"
  | .num n => n.text
  | .str s => s
  | .seq _ => "a sequence"
  | .map _ => "a mapping"
  | .tagged _ value => value.keyText

mutual

def convert : Yaml → Converting Json
  | .null => return .null
  | .bool b => return .bool b
  | .num n => match n.toJson? with
    | some n => return .num n
    | none => failHere ("number (" ++ n.text ++ ") is not finite")
  | .str s => return .str s
  | .seq items => do return .arr (← convertItems 0 items)
  | .map entries => do return .obj (← convertEntries entries [])
  | .tagged _ value => convert value

def convertItems : Nat → List Yaml → Converting (List Json)
  | _, [] => return []
  | i, item :: rest => do
    let j ← stepping (toString i) (convert item)
    return j :: (← convertItems (i + 1) rest)

/-- Adds entries to those that are converted. -/
def convertEntries : List (Yaml × Yaml) → Dict Json → Converting (Dict Json)
  | [], fields => return fields
  | (.str key, value) :: rest, fields => do
    let j ← stepping key (convert value)
    convertEntries rest (fields.insert key j)
  | (key, _) :: _, _ => failHere ("map key must be a string, but got (" ++ key.keyText ++ ")")

end

/-- The JSON value of a YAML value. -/
def toJson (y : Yaml) : Except ConversionError Json := y.convert.run' []

end Yaml

end DataSchema
