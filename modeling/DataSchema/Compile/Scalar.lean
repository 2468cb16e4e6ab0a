import DataSchema.Compile.Basic

/-!
# Compiling schemas of scalars

Booleans, `null`, numbers, integers and texts. A bound of an integer that is no integer is rounded
inward, so that it admits the same integers, and the rounding is noted as a warning.
-/

namespace DataSchema.Compile

def boolean (raw : RawSchema) : Noted (Option Schema) := do
  let required ← required raw
  let default ← coerced "default" (Coerce.boolean none (raw.get? "default"))
  return some { required, default := default.map .bool, kind := .boolean }

/-- A default of `null` is kept, unlike in the other kinds. -/
def null (raw : RawSchema) : Noted (Option Schema) := do
  let required ← required raw
  let default ← coerced "default" (Coerce.null none (raw.get? "default"))
  return some { required, default, kind := .null }

/-! ## Numbers -/

def number (raw : RawSchema) : Noted (Option Schema) := do
  let required ← required raw
  let default ← coerced "default" (Coerce.number none (raw.get? "default"))
  let bound (name : String) := coerced name (Coerce.number none (raw.get? name))
  let minimum ← bound "minimum"
  let maximum ← bound "maximum"
  let exclusiveMinimum ← bound "exclusiveMinimum"
  let exclusiveMaximum ← bound "exclusiveMaximum"
  let members ← members raw Coerce.number
  return some
    { required
      default := default.map .ofBinary64
      kind := .number { minimum, maximum, exclusiveMinimum, exclusiveMaximum, members } }

/-- A bound of an integer: exactly as it is written if it is an integer, else rounded. -/
def roundedBound (raw : RawSchema) (name : String) (round : Binary64 → Binary64) :
    Noted (Option Int64) := do
  let exact := Coerce.int64 none (raw.get? name)
  if !exact.hasError then return exact.value
  match ← coerced name (Coerce.number none (raw.get? name)) with
  | none => return none
  | some n =>
    let rounded := round n
    match rounded.toInt64? with
    | none =>
      Noted.error (.of name (name ++ " (" ++ n.shown ++ ") is outside the integer range."))
      return none
    | some bound =>
      if !rounded.sameValue n then
        Noted.warning (.of name
          (name ++ " (" ++ n.shown ++ ") is not an integer, rounded to (" ++ rounded.shown ++
            ")."))
      return some bound

def integer (raw : RawSchema) : Noted (Option Schema) := do
  let required ← required raw
  let default ← coerced "default" (Coerce.int64 none (raw.get? "default"))
  let minimum ← roundedBound raw "minimum" Binary64.ceil
  let maximum ← roundedBound raw "maximum" Binary64.floor
  let exclusiveMinimum ← roundedBound raw "exclusiveMinimum" Binary64.floor
  let exclusiveMaximum ← roundedBound raw "exclusiveMaximum" Binary64.ceil
  let members ← members raw Coerce.int64
  return some
    { required
      default := default.map .ofInt64
      kind := .integer { minimum, maximum, exclusiveMinimum, exclusiveMaximum, members } }

/-! ## Texts -/

/-- A field that holds a name or an array of names. -/
def names (raw : RawSchema) (field : String) : Noted (List String) :=
  match raw.get? field with
  | none | some .null => return []
  | some (.str name) => return [name]
  | some (.arr items) => do
    return (← coerced field (Coerce.array Coerce.string none (some (.arr items)))).getD []
  | some other => do
    Noted.error (.of field
      (field ++ " must be a string or an array of strings, but got (" ++
        Json.shown (some other) ++ ")."))
    return []

/-- The things that names stand for; a name that stands for none is dropped with a warning. -/
def known {α : Type} (field : String) (ofName? : String → Option α) :
    List String → Noted (List α)
  | [] => return []
  | name :: rest => do
    match ofName? name with
    | some a => return a :: (← known field ofName? rest)
    | none =>
      Noted.warning (.of field ("unsupported " ++ field ++ " (" ++ name ++ "), ignored."))
      known field ofName? rest

/-- A field of names, of which at least one has to be known. -/
def knownNames {α : Type} (raw : RawSchema) (field : String) (ofName? : String → Option α) :
    Noted (Option (List α)) := do
  return nonEmpty (← known field ofName? (← names raw field))

/-- A count as a word. -/
def word (n : Int64) : UInt64 := UInt64.ofNat n.toInt.toNat

def minLength (raw : RawSchema) : Noted (Option UInt64) := do
  match ← coerced "minLength" (Coerce.int64 none (raw.get? "minLength")) with
  | none => return none
  | some n =>
    if n < 0 then
      Noted.error (.of "minLength"
        ("minLength must be a non-negative integer, but got (" ++ toString n.toInt ++ ")."))
      return none
    else return some (word n)

def maxLength (raw : RawSchema) (minLength : Option UInt64) : Noted (Option UInt64) := do
  match ← coerced "maxLength" (Coerce.int64 none (raw.get? "maxLength")) with
  | none => return none
  | some n =>
    if n ≤ 0 then
      Noted.error (.of "maxLength"
        ("maxLength must be a positive integer, but got (" ++ toString n.toInt ++ ")."))
      return none
    else match minLength with
      | none => return some (word n)
      | some least =>
        if word n < least then
          Noted.error (.of "maxLength"
            ("maxLength must be greater than or equal to minLength, but got (" ++
              toString n.toInt ++ " < " ++ toString least ++ ")."))
          return none
        else return some (word n)

def string (raw : RawSchema) : Noted (Option Schema) := do
  let required ← required raw
  let default ← coerced "default" (Coerce.string none (raw.get? "default"))
  let pattern ← coerced "pattern" (Coerce.regex none (raw.get? "pattern"))
  let members ← members raw Coerce.string
  let minLength ← minLength raw
  let maxLength ← maxLength raw minLength
  let format ← knownNames raw "format" StringFormat.ofName?
  let transform ← knownNames raw "transform" StringTransform.ofName?
  return some
    { required
      default := default.map .str
      kind := .string { minLength, maxLength, pattern, format, transform, members } }

end DataSchema.Compile
