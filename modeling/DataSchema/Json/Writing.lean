import DataSchema.Json
import DataSchema.Binary64.Writing

/-!
# The text of a JSON value

Compact JSON: no blanks, fields in their order, and in strings only the quote, the backslash and
the characters below U+0020 are escaped. `Json.shown` is how messages quote a value: strings stand
bare, and a missing value is `undefined`.
-/

namespace DataSchema

/-- Floats in JSON text: plain from a hundred-thousandth up to sixteen digits before the point,
always with a fraction there, and a tie goes to the even digit. -/
def Json.floatLayout : Binary64.Layout :=
  { plain := fun place => -5 ≤ place && place ≤ 15, wholeFraction := true, plusSign := true
    tie := .toEven }

/-- Floats in messages: never with an exponent, a whole number without fraction, and a tie goes
up. -/
def messageLayout : Binary64.Layout :=
  { plain := fun _ => true, wholeFraction := false, plusSign := false, tie := .up }

/-- The text of a number within a message. -/
def Binary64.shown (x : Binary64) : String := x.text messageLayout

def JsonNumber.text : JsonNumber → String
  | .int n => toString n.val
  | .float x => x.text Json.floatLayout

namespace Json

/-- A digit of a lower-case hexadecimal number. -/
def hexDigit (n : Nat) : Char := Nat.digitChar n

/-- A character of a string as it is written between quotes. -/
def escapeChar (c : Char) : List Char :=
  match c with
  | '"' => ['\\', '"']
  | '\\' => ['\\', '\\']
  | '\n' => ['\\', 'n']
  | '\r' => ['\\', 'r']
  | '\t' => ['\\', 't']
  | '\x08' => ['\\', 'b']
  | '\x0c' => ['\\', 'f']
  | c =>
    if c.toNat < 32 then
      ['\\', 'u', '0', '0', hexDigit (c.toNat / 16), hexDigit (c.toNat % 16)]
    else [c]

/-- A string between quotes. -/
def quote (s : String) : String :=
  String.ofList ('"' :: s.toList.flatMap escapeChar ++ ['"'])

mutual

def text : Json → String
  | .null => "null"
  | .bool true => "true"
  | .bool false => "false"
  | .num n => n.text
  | .str s => quote s
  | .arr items => "[" ++ ",".intercalate (textItems items) ++ "]"
  | .obj fields => "\x7b" ++ ",".intercalate (textFields fields) ++ "\x7d"

def textItems : List Json → List String
  | [] => []
  | x :: xs => x.text :: textItems xs

def textFields : List (String × Json) → List String
  | [] => []
  | (k, x) :: xs => (quote k ++ ":" ++ x.text) :: textFields xs

end

/-- A value as messages quote it. -/
def shown : Option Json → String
  | none => "undefined"
  | some (.str s) => s
  | some j => j.text

/-- A list of texts as messages quote it. -/
def shownTexts (items : List String) : String := (Json.arr (items.map .str)).text

end Json

end DataSchema
