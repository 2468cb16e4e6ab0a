import DataSchema.Binary64.Reading
import DataSchema.Yaml

/-!
# What scalars stand for

A plain scalar stands for null, a Boolean, an integer, a float or a text, whichever reads it first.
Integers have a sign, and a radix mark or decimal digits; a decimal with leading zeros is a text.
The core tags ask for one of these readings, and the scalar has to have it.
-/

namespace DataSchema.Yaml

def isNull (text : String) : Bool := text ∈ ["null", "Null", "NULL", "~"]

def readBool? (text : String) : Option Bool :=
  if text ∈ ["true", "True", "TRUE"] then some true
  else if text ∈ ["false", "False", "FALSE"] then some false
  else none

/-- Digits with a leading zero, behind a sign or not. -/
def hasLeadingZero (text : List Char) : Bool :=
  match (spanSign text).2 with
  | '0' :: c :: rest => (c :: rest).all Char.isDigit
  | _ => false

/-- The value of a digit up to `f`. -/
def digit? (c : Char) : Option Nat :=
  if c.isDigit then some (c.toNat - '0'.toNat)
  else if 'a' ≤ c ∧ c ≤ 'f' then some (c.toNat - 'a'.toNat + 10)
  else if 'A' ≤ c ∧ c ≤ 'F' then some (c.toNat - 'A'.toNat + 10)
  else none

/-- The number written by at least one digit of a radix. -/
def readDigits? (radix : Nat) (digits : List Char) : Option Nat :=
  if digits.isEmpty then none
  else digits.foldlM
    (fun n c => match digit? c with
      | some d => if d < radix then some (radix * n + d) else none
      | none => none) 0

/-- A number after its sign: a radix mark and digits of the radix, or decimal digits. -/
def readMagnitude? : List Char → Option Nat
  | '0' :: 'x' :: digits => readDigits? 16 digits
  | '0' :: 'o' :: digits => readDigits? 8 digits
  | '0' :: 'b' :: digits => readDigits? 2 digits
  | digits => readDigits? 10 digits

/-- How many values two words of 64 bits have. -/
def doubleSize : Nat := UInt64.size * UInt64.size

/-- An integer that two words of 64 bits can hold. -/
def readInteger? (text : List Char) : Option Int :=
  if hasLeadingZero text then none
  else
    let (negative, body) := spanSign text
    match readMagnitude? body with
    | none => none
    | some n =>
      if negative then if 2 * n ≤ doubleSize then some (-n) else none
      else if n < doubleSize then some n else none

/-- A float: a decimal that is finite, or a name of one that is not. -/
def readFloat? (text : String) : Option YamlNumber :=
  let unsigned : Option (List Char) := match text.toList with
    | '+' :: '+' :: _ | '+' :: '-' :: _ => none
    | '+' :: rest => some rest
    | cs => some cs
  match unsigned with
  | none => none
  | some cs =>
    if String.ofList cs ∈ [".inf", ".Inf", ".INF"] then some (.infinite false)
    else if text ∈ ["-.inf", "-.Inf", "-.INF"] then some (.infinite true)
    else if text ∈ [".nan", ".NaN", ".NAN"] then some .nan
    else (Binary64.ofText? cs).map .float

/-- An integer as a value; an integer of more than 64 bits is none. -/
def ofInteger? (n : Int) : Option Yaml := (WideInt.ofInt? n).map fun n => .num (.int n)

/-- What a plain scalar stands for. -/
def ofPlain? (text : String) : Option Yaml :=
  if text = "" || isNull text then some .null
  else match readBool? text with
    | some b => some (.bool b)
    | none => match readInteger? text.toList with
      | some n => ofInteger? n
      | none =>
        if hasLeadingZero text.toList then some (.str text)
        else match readFloat? text with
          | some n => some (.num n)
          | none => some (.str text)

/-- What a scalar stands for without regard to a tag. -/
def ofUntagged? (plain : Bool) (text : String) : Option Yaml :=
  if plain then ofPlain? text else some (.str text)

/-- The start of the core tags. -/
def coreTag (name : String) : String := "tag:yaml.org,2002:" ++ name

/-- The name of a tag of the document's own, which starts with a mark. -/
def ownTag? (tag : String) : Option String :=
  match tag.toList with
  | ['!'] => some "!"
  | '!' :: rest => some (String.ofList rest)
  | _ => none

/-- What a scalar stands for. -/
def ofScalar? (tag : Option String) (plain : Bool) (text : String) : Option Yaml :=
  match tag with
  | none => ofUntagged? plain text
  | some tag => match ownTag? tag with
    | some name => (ofUntagged? plain text).map (.tagged name)
    | none =>
      if tag = coreTag "bool" then (readBool? text).map .bool
      else if tag = coreTag "int" then (readInteger? text.toList).bind ofInteger?
      else if tag = coreTag "float" then (readFloat? text).map .num
      else if tag = coreTag "null" then if isNull text then some .null else none
      else some (.str text)

end DataSchema.Yaml
