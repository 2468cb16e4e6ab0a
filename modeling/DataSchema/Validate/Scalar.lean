import DataSchema.Coerce
import DataSchema.Text.Words
import DataSchema.Unicode.Case
import DataSchema.Validate.Basic
import DataSchema.Validate.Format

/-!
# Validating scalars

Booleans and numbers may come as texts. Of several constraints that a value breaks the first one is
reported: the bounds in order, then the allowed values.
-/

namespace DataSchema.Validate

def boolean (s : Schema) (data : Option Json) : Noted (Option Json) := do
  match ← given s data with
  | none => return none
  | some value =>
    let read := Coerce.boolean none (some value)
    match read.hasError, read.value with
    | false, some b => return some (.bool b)
    | _, _ => reject (unexpected "a boolean" value)

/-- Missing data takes the default even if that is `null`. -/
def null (s : Schema) (data : Option Json) : Noted (Option Json) := do
  let data := data.or s.default
  match data with
  | some .null => return some .null
  | data => match ← given s data with
    | none => return none
    | some value => reject (unexpected "null" value)

/-! ## Numbers -/

/-- What is compared with the bounds of a kind of numbers, and how it is shown. -/
structure Scale (α : Type) where
  lt : α → α → Bool
  le : α → α → Bool
  same : α → α → Bool
  shown : α → String
  /-- Several numbers, between brackets. -/
  shownAll : List α → String

def floatScale : Scale Binary64 :=
  { lt := Binary64.lt
    le := Binary64.le
    same := Binary64.sameValue
    shown := Binary64.shown
    shownAll := fun xs => (Json.arr (xs.map .ofBinary64)).text }

def integerScale : Scale Int64 :=
  { lt := fun m n => m < n
    le := fun m n => m ≤ n
    same := fun m n => m == n
    shown := fun n => toString n.toInt
    shownAll := fun ns => "[" ++ ", ".intercalate (ns.map fun n => toString n.toInt) ++ "]" }

/-- The error on a number beyond a bound. -/
def boundError {α : Type} (scale : Scale α) (name : String) (bound n : α) : Diagnostic :=
  .of name
    (name ++ " value expected is " ++ scale.shown bound ++ ", but got " ++ scale.shown n ++ ".")

/-- An error if a bound is set and broken. -/
def boundFault? {α : Type} (scale : Scale α) (name : String) (broken : α → α → Bool)
    (bound : Option α) (n : α) : Option Diagnostic :=
  match bound with
  | some b => if broken b n then some (boundError scale name b n) else none
  | none => none

/-- An error if there are allowed values, and a number is none of them. -/
def memberFault? {α : Type} (scale : Scale α) (members : Option (List α)) (n : α) :
    Option Diagnostic :=
  match members with
  | none | some [] => none
  | some values =>
    if values.any (scale.same · n) then none
    else some (.of "enum"
      ("expected values are " ++ scale.shownAll values ++ ", but got " ++ scale.shown n ++ "."))

/-- The first constraint that a number breaks. -/
def numberFault? {α : Type} (scale : Scale α) (b : Bounds α) (n : α) : Option Diagnostic :=
  (boundFault? scale "minimum" (fun least n => scale.lt n least) b.minimum n).or <|
  (boundFault? scale "maximum" scale.lt b.maximum n).or <|
  (boundFault? scale "exclusiveMinimum" (fun least n => scale.le n least) b.exclusiveMinimum
    n).or <|
  (boundFault? scale "exclusiveMaximum" scale.le b.exclusiveMaximum n).or <|
  memberFault? scale b.members n

/-- Data that is read as a number and has to be within bounds. -/
def within {α : Type} (scale : Scale α) (read : Coerce.Reader α) (write : α → Json)
    (expected : String) (bounds : Bounds α) (s : Schema) (data : Option Json) :
    Noted (Option Json) := do
  match ← given s data with
  | none => return none
  | some value =>
    let number := read none (some value)
    match number.hasError, number.value with
    | false, some n => match numberFault? scale bounds n with
      | none => return some (write n)
      | some fault => reject fault
    | _, _ => reject (unexpected expected value)

def number (s : Schema) (data : Option Json) : Noted (Option Json) :=
  match s.kind with
  | .number bounds => within floatScale Coerce.number .ofBinary64 "a number" bounds s data
  | _ => reject (mismatch "number" s)

def integer (s : Schema) (data : Option Json) : Noted (Option Json) :=
  match s.kind with
  | .integer bounds => within integerScale Coerce.int64 .ofInt64 "an integer" bounds s data
  | _ => reject (mismatch "integer" s)

/-! ## Texts -/

def transformed (text : String) : StringTransform → String
  | .trim => Text.trim text
  | .lowercase => Unicode.toLower text
  | .uppercase => Unicode.toUpper text
  | .camelCase => Text.camelCase text
  | .littleCamelCase => Text.littleCamelCase text
  | .kebabCase => Text.kebabCase text

/-- What is said of a text of the wrong length. -/
def lengthError (name : String) (bound : UInt64) (text : String) : Diagnostic :=
  .of name
    (name ++ " expected is " ++ toString bound ++ ", but got value (" ++ text ++
      ") with length (" ++ toString text.length ++ ").")

def minLengthFault? (c : StringSchema) (text : String) : Option Diagnostic :=
  match c.minLength with
  | some least =>
    if text.length < least.toNat then some (lengthError "minLength" least text) else none
  | none => none

def maxLengthFault? (c : StringSchema) (text : String) : Option Diagnostic :=
  match c.maxLength with
  | some most =>
    if most.toNat < text.length then some (lengthError "maxLength" most text) else none
  | none => none

def patternFault? (c : StringSchema) (text : String) : Option Diagnostic :=
  match c.pattern with
  | some p =>
    if p.isMatch text then none
    else some (.of "pattern"
      ("expected value pattern is (" ++ p.source ++ "), but got (" ++ text ++ ")."))
  | none => none

def formatFault? (c : StringSchema) (text : String) : Option Diagnostic :=
  match c.format with
  | none | some [] => none
  | some formats =>
    if formats.any (·.accepts text) then none
    else some (.of "format"
      ("not matched any of " ++ Json.shownTexts (formats.map (·.name)) ++ "."))

def textMemberFault? (c : StringSchema) (text : String) : Option Diagnostic :=
  match c.members with
  | none | some [] => none
  | some values =>
    if values.contains text then none
    else some (.of "enum"
      ("expected value should in the " ++ Json.shownTexts values ++ ", but got (" ++ text ++ ")."))

/-- The first constraint that a text breaks. -/
def textFault? (c : StringSchema) (text : String) : Option Diagnostic :=
  (minLengthFault? c text).or <| (maxLengthFault? c text).or <| (patternFault? c text).or <|
  (formatFault? c text).or <| textMemberFault? c text

def string (s : Schema) (data : Option Json) : Noted (Option Json) :=
  match s.kind with
  | .string constraints => do
    match ← given s data with
    | none => return none
    | some (.str text) =>
      let text := (constraints.transform.getD []).foldl transformed text
      match textFault? constraints text with
      | none => return some (.str text)
      | some fault => reject fault
    | some other => reject (unexpected "a string" other)
  | _ => reject (mismatch "string" s)

end DataSchema.Validate
