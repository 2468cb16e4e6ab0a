import DataSchema.Json.Writing
import DataSchema.Binary64.Reading
import DataSchema.Pattern
import DataSchema.Text

/-!
# Coercions

Schemas and data are written by hand, so a number may come as a string. A coercion reads a JSON
value as a value of a type: what is missing or `null` gives the default, and what cannot be read
gives an error beside the default. Only `Coerce.integer` gives an error beside the value it read.
-/

namespace DataSchema

/-- A value, or the default for it, with the errors met while reading it. -/
structure Coerced (α : Type) where
  value : Option α
  errors : List String

namespace Coerced

variable {α : Type}

def of (value : Option α) : Coerced α := { value, errors := [] }

def failed (default : Option α) (error : String) : Coerced α :=
  { value := default, errors := [error] }

def hasError (c : Coerced α) : Bool := !c.errors.isEmpty

/-- All errors, one a line. -/
def errorSummary (c : Coerced α) : String := "\n".intercalate c.errors

end Coerced

namespace Coerce

variable {α : Type}

/-- A way to read a value of a type: from a default and a JSON value that may be missing. -/
abbrev Reader (α : Type) := Option α → Option Json → Coerced α

/-- The error on a value that is not of a kind. -/
def notValid (raw : Json) (kind : String) : String :=
  "(" ++ Json.shown (some raw) ++ ") is not a valid " ++ kind

/-- A Boolean, or its name in any case. -/
def boolean : Reader Bool := fun default raw =>
  match raw with
  | none | some .null => .of default
  | some (.bool b) => .of (some b)
  | some other =>
    match other with
    | .str s =>
      if Text.sameButCase s "true" then .of (some true)
      else if Text.sameButCase s "false" then .of (some false)
      else .failed default (notValid other "boolean (or boolean string)")
    | _ => .failed default (notValid other "boolean (or boolean string)")

/-- The number of a JSON number or of a text around which there may be white space. -/
def numberOf? : Json → Option Binary64
  | .num n => some n.toBinary64
  | .str s => Binary64.ofText? (Text.trimChars s.toList)
  | _ => none

/-- A number, or a text with a finite number. -/
def number : Reader Binary64 := fun default raw =>
  match raw with
  | none | some .null => .of default
  | some v => match numberOf? v with
    | some n => .of (some n)
    | none => .failed default (notValid v "number (or number string)")

/-- A number as `number` reads it; one that is not whole is an error, and given all the same. -/
def integer : Reader Binary64 := fun default raw =>
  let c := number default raw
  match c.hasError, c.value, raw with
  | false, some n, some v =>
    if n.isWhole then c
    else { c with errors := [notValid v "integer (or integer string)"] }
  | _, _, _ => c

/-- The integer of a JSON integer or of a text, read digit by digit. -/
def exactInt64? : Json → Option Int64
  | .num n => n.toInt64?
  | .str s => (readInt? (Text.trimChars s.toList)).bind int64OfInt?
  | _ => none

/-- A signed 64-bit integer. Integers and texts of integers are read exactly; other numbers have to
be whole and within the range. -/
def int64 : Reader Int64 := fun default raw =>
  match raw with
  | none | some .null => .of default
  | some v => match exactInt64? v with
    | some n => .of (some n)
    | none =>
      let c := integer none (some v)
      if c.hasError then { value := default, errors := c.errors }
      else match c.value.bind (·.toInt64?) with
        | some n => .of (some n)
        | none =>
          .failed default ("(" ++ Json.shown (some v) ++ ") is outside the integer range")

def string : Reader String := fun default raw =>
  match raw with
  | none | some .null => .of default
  | some (.str s) => .of (some s)
  | some other => .failed default (notValid other "string")

/-- A text that is a regular expression. -/
def regex : Reader Pattern := fun default raw =>
  match raw with
  | none | some .null => .of default
  | some (.str s) => match Pattern.ofSource s with
    | .ok p => .of (some p)
    | .error e => .failed default (notValid (.str s) "regex: " ++ e.message)
  | some other => .failed default (notValid other "regex string")

/-- Only an explicit `null`; what is missing gives the default. -/
def null : Reader Json := fun default raw =>
  match raw with
  | none => .of default
  | some .null => .of (some .null)
  | some other => .failed default ("(" ++ Json.shown (some other) ++ ") is not null")

/-- The elements from an index on that can be read, and an error for each that cannot. -/
def elements (element : Reader α) : Nat → List Json → List α × List String
  | _, [] => ([], [])
  | i, item :: rest =>
    let c := element none (some item)
    let (values, errors) := elements element (i + 1) rest
    if c.hasError then
      (values, ("index(" ++ toString i ++ "): " ++ c.errorSummary) :: errors)
    else (c.value.toList ++ values, errors)

/-- An array of elements; those that cannot be read are left out. -/
def array (element : Reader α) : Reader (List α) := fun default raw =>
  match raw with
  | none | some .null => .of default
  | some (.arr items) =>
    let (values, errors) := elements element 0 items
    { value := some values, errors }
  | some other => .failed default (notValid other "array")

end Coerce

end DataSchema
