import DataSchema.Json.Writing
import DataSchema.Pattern
import DataSchema.Text

/-!
# Decoding typed values

A decoder takes a JSON value apart and says, where that fails, what it got and what it expected.
The fields of a structure are decoded in the order of their names, so of several faults the one in
the first name is reported.
-/

namespace DataSchema

/-- A way to read a value of a type, or what is wrong. -/
abbrev Decoder (α : Type) := Json → Except String α

namespace Decoder

variable {α : Type}

/-- A value as a message about it begins. -/
def got : Json → String
  | .null => "null"
  | .bool b => "boolean `" ++ (if b then "true" else "false") ++ "`"
  | .num (.int n) => "integer `" ++ toString n.val ++ "`"
  | .num (.float x) => "floating point `" ++ (JsonNumber.float x).text ++ "`"
  | .str s => "string " ++ Text.quoted s
  | .arr _ => "sequence"
  | .obj _ => "map"

/-- The message on a value of another type than the wanted one. -/
def wrongType (j : Json) (wanted : String) : String :=
  "invalid type: " ++ got j ++ ", expected " ++ wanted

/-- The message on a value of the right type outside the wanted range. -/
def wrongValue (j : Json) (wanted : String) : String :=
  "invalid value: " ++ got j ++ ", expected " ++ wanted

def binary64 : Decoder Binary64
  | .num n => .ok n.toBinary64
  | j => .error (wrongType j "f64")

def int64 : Decoder Int64
  | .num (.int n) => match int64OfInt? n.val with
    | some i => .ok i
    | none => .error (wrongValue (.num (.int n)) "i64")
  | j => .error (wrongType j "i64")

/-- A count: an integer that is not negative. -/
def count : Decoder UInt64
  | .num (.int n) =>
    if 0 ≤ n.val then .ok (UInt64.ofNat n.val.toNat)
    else .error (wrongValue (.num (.int n)) "usize")
  | j => .error (wrongType j "usize")

def text : Decoder String
  | .str s => .ok s
  | j => .error (wrongType j "a string")

def pattern : Decoder Pattern := fun j => do
  let source ← text j
  (Pattern.ofSource source).mapError (·.message)

/-- Any value; `null` stands for none. -/
def optional (d : Decoder α) : Decoder (Option α)
  | .null => .ok none
  | j => some <$> d j

def list (d : Decoder α) : Decoder (List α)
  | .arr items => items.mapM d
  | j => .error (wrongType j "a sequence")

/-- A dictionary, whose values are decoded in the order of the keys. -/
def dict (d : Decoder α) : Decoder (Dict α)
  | .obj fields => fields.mapM fun (k, v) => do return (k, ← d v)
  | j => .error (wrongType j "a map")

/-- The message on a name that is none of those known. -/
def unknownName (name : String) (known : List String) : String :=
  let marked := known.map fun k => "`" ++ k ++ "`"
  "unknown variant `" ++ name ++ "`, expected " ++
    match marked with
    | [a] => a
    | [a, b] => a ++ " or " ++ b
    | _ => "one of " ++ ", ".intercalate marked

/-- One of some named values: its name, or an object whose only field has the name and holds
`null`. -/
def oneOf (known : List α) (name : α → String) : Decoder α := fun j =>
  let find (n : String) : Except String α :=
    match known.find? fun a => name a = n with
    | some a => .ok a
    | none => .error (unknownName n (known.map name))
  match j with
  | .str n => find n
  | .obj [(n, payload)] => do
    let a ← find n
    match payload with
    | .null => .ok a
    | j => .error (wrongType j "unit")
  | .obj _ => .error (wrongValue j "map with a single key")
  | _ => .error (wrongType j "string or map")

/-- A field that may be missing. -/
def field? (d : Decoder α) (fields : Dict Json) (name : String) : Except String (Option α) :=
  match fields.get? name with
  | none => .ok none
  | some j => some <$> d j

/-- A field for which missing and `null` both stand for none. -/
def optionalField (d : Decoder α) (fields : Dict Json) (name : String) :
    Except String (Option α) :=
  Option.join <$> field? (optional d) fields name

/-- An element of a row that may be too short. -/
def element? (d : Decoder α) (items : List Json) (index : Nat) : Except String (Option α) :=
  match items[index]? with
  | none => .ok none
  | some j => some <$> d j

def missingField (name : String) : String := "missing field `" ++ name ++ "`"

/-- The message on a row with too few elements for a structure. -/
def tooFew (length : Nat) (structureName : String) (fields : Nat) : String :=
  "invalid length " ++ toString length ++ ", expected struct " ++ structureName ++ " with " ++
    toString fields ++ " elements"

/-- The message on a row with too many elements. -/
def tooMany (length : Nat) : String :=
  "invalid length " ++ toString length ++ ", expected fewer elements in array"

end Decoder

end DataSchema
