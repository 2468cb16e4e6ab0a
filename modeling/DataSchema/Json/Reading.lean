import DataSchema.Json
import DataSchema.Binary64.Reading

/-!
# Reading JSON text

The strict grammar of JSON, and nothing else: one value with blanks around it. Of two fields with
one key the later wins. Text is refused when containers nest deeper than a limit, when a number is
not finite as binary64, and when an escape names half of a surrogate pair.

A reader takes the rest of the text and gives a value with what follows it. Recursion is bounded by
fuel; every call consumes a character, so the length of the text is enough.
-/

namespace DataSchema

namespace Json

/-- A reader: a value and the text after it. -/
abbrev Reader (α : Type) := List Char → Option (α × List Char)

def isBlank (c : Char) : Bool := c = ' ' || c = '\n' || c = '\r' || c = '\t'

def skipBlanks (text : List Char) : List Char := text.dropWhile isBlank

/-- The rest of a text that starts with the given characters. -/
def expect? : List Char → List Char → Option (List Char)
  | [], text => some text
  | c :: cs, d :: text => if c = d then expect? cs text else none
  | _ :: _, [] => none

/-! ## Numbers -/

/-- Digits gathered into a 64-bit significand: the significand, and how many digits no longer fit.
After the first that does not fit none is taken. -/
structure Significand where
  value : Nat
  taken : Nat
  dropped : Nat

def Significand.push (s : Significand) (digit : Char) : Significand :=
  let next := 10 * s.value + digitValue digit
  if s.dropped = 0 ∧ next < UInt64.size then { s with value := next, taken := s.taken + 1 }
  else { s with dropped := s.dropped + 1 }

/-- A row of digits gathered onto a significand. -/
def Significand.pushAll (s : Significand) (digits : List Char) : Significand :=
  digits.foldl push { s with taken := 0, dropped := 0 }

/-- The digits before the point: one zero, or a row without leading zero. -/
def readWhole? : Reader (List Char)
  | '0' :: rest =>
    match rest with
    | c :: _ => if c.isDigit then none else some (['0'], rest)
    | [] => some (['0'], [])
  | text => match spanDigits text with
    | ([], _) => none
    | digits => some digits

/-- The point and at least one digit after it, if there is a point. -/
def readFraction? : Reader (Option (List Char))
  | '.' :: rest => match spanDigits rest with
    | ([], _) => none
    | (digits, rest) => some (some digits, rest)
  | text => some (none, text)

/-- The mark and at least one digit after it, if there is a mark. -/
def readPower? : Reader (Option Int)
  | [] => some (none, [])
  | c :: rest =>
    if c = 'e' ∨ c = 'E' then
      let (negative, body) := spanSign rest
      match spanDigits body with
      | ([], _) => none
      | (digits, rest) =>
        some (some (if negative then -(natOfDigits digits : Int) else natOfDigits digits), rest)
    else some (none, c :: rest)

/-- The number of a literal without fraction and exponent. An integer out of range, and minus zero,
is a float. -/
def wholeNumber? (negative : Bool) (digits : List Char) : Option JsonNumber :=
  let magnitude := natOfDigits digits
  let value : Int := if negative then -(magnitude : Int) else magnitude
  match if negative ∧ magnitude = 0 then none else WideInt.ofInt? value with
  | some n => some (.int n)
  | none =>
    let s := (⟨0, 0, 0⟩ : Significand).pushAll digits
    (Binary64.scaled? negative s.value s.dropped).map .float

/-- The number of a literal with fraction or exponent. Digits of the fraction that do not fit the
significand are ignored. -/
def fractionNumber? (negative : Bool) (whole fraction : List Char) (power : Int) :
    Option JsonNumber :=
  let s := (⟨0, 0, 0⟩ : Significand).pushAll whole
  let t := s.pushAll fraction
  (Binary64.scaled? negative t.value (s.dropped - t.taken + power)).map .float

def readNumber? (text : List Char) : Option (JsonNumber × List Char) := do
  let (negative, body) := match text with
    | '-' :: rest => (true, rest)
    | rest => (false, rest)
  let (whole, rest) ← readWhole? body
  let (fraction, rest) ← readFraction? rest
  let (power, rest) ← readPower? rest
  match fraction, power with
  | none, none => return (← wholeNumber? negative whole, rest)
  | fraction, power =>
    return (← fractionNumber? negative whole (fraction.getD []) (power.getD 0), rest)

/-! ## Strings -/

def hexValue? (c : Char) : Option Nat :=
  if c.isDigit then some (c.toNat - '0'.toNat)
  else if 'a' ≤ c ∧ c ≤ 'f' then some (c.toNat - 'a'.toNat + 10)
  else if 'A' ≤ c ∧ c ≤ 'F' then some (c.toNat - 'A'.toNat + 10)
  else none

/-- Four hexadecimal digits. -/
def readUnit? : Reader Nat
  | a :: b :: c :: d :: rest => do
    let a ← hexValue? a
    let b ← hexValue? b
    let c ← hexValue? c
    let d ← hexValue? d
    return (4096 * a + 256 * b + 16 * c + d, rest)
  | _ => none

/-- The character after `\u`: one unit, or the two units of a surrogate pair. -/
def readUnicode? (text : List Char) : Option (Char × List Char) := do
  let (unit, rest) ← readUnit? text
  if unit < 0xD800 ∨ 0xDFFF < unit then return (Char.ofNat unit, rest)
  else if 0xDBFF < unit then none
  else
    let rest ← expect? ['\\', 'u'] rest
    let (low, rest) ← readUnit? rest
    if 0xDC00 ≤ low ∧ low ≤ 0xDFFF then
      return (Char.ofNat (0x10000 + 1024 * (unit - 0xD800) + (low - 0xDC00)), rest)
    else none

/-- The character after a backslash. -/
def readEscape? : Reader Char
  | '"' :: rest => some ('"', rest)
  | '\\' :: rest => some ('\\', rest)
  | '/' :: rest => some ('/', rest)
  | 'b' :: rest => some ('\x08', rest)
  | 'f' :: rest => some ('\x0c', rest)
  | 'n' :: rest => some ('\n', rest)
  | 'r' :: rest => some ('\r', rest)
  | 't' :: rest => some ('\t', rest)
  | 'u' :: rest => readUnicode? rest
  | _ => none

/-- The characters up to the closing quote, gathered in reverse. -/
def readChars? : Nat → List Char → Reader String
  | 0, _, _ => none
  | _, _, [] => none
  | fuel + 1, gathered, c :: rest =>
    if c = '"' then some (String.ofList gathered.reverse, rest)
    else if c = '\\' then
      match readEscape? rest with
      | some (c, rest) => readChars? fuel (c :: gathered) rest
      | none => none
    else if c.toNat < 32 then none
    else readChars? fuel (c :: gathered) rest

/-- The string whose opening quote has been read. -/
def readString? (text : List Char) : Option (String × List Char) :=
  readChars? (text.length + 1) [] text

/-! ## Values -/

mutual

/-- A value; `depth` is how many more containers may nest. -/
def readValue? : Nat → (depth : Nat) → Reader Json
  | 0, _, _ => none
  | fuel + 1, depth, text =>
    match text with
    | 'n' :: rest => (expect? ['u', 'l', 'l'] rest).map (.null, ·)
    | 't' :: rest => (expect? ['r', 'u', 'e'] rest).map (.bool true, ·)
    | 'f' :: rest => (expect? ['a', 'l', 's', 'e'] rest).map (.bool false, ·)
    | '"' :: rest => (readString? rest).map fun (s, rest) => (.str s, rest)
    | '[' :: rest =>
      match depth with
      | 0 => none
      | depth + 1 => match skipBlanks rest with
        | ']' :: rest => some (.arr [], rest)
        | rest => readItems? fuel depth [] rest
    | '\x7b' :: rest =>
      match depth with
      | 0 => none
      | depth + 1 => match skipBlanks rest with
        | '\x7d' :: rest => some (.obj [], rest)
        | rest => readFields? fuel depth [] rest
    | text => (readNumber? text).map fun (n, rest) => (.num n, rest)

/-- The items from here to the closing bracket, gathered in reverse. -/
def readItems? : Nat → (depth : Nat) → List Json → Reader Json
  | 0, _, _, _ => none
  | fuel + 1, depth, gathered, text =>
    match readValue? fuel depth (skipBlanks text) with
    | none => none
    | some (item, rest) => match skipBlanks rest with
      | ',' :: rest => readItems? fuel depth (item :: gathered) rest
      | ']' :: rest => some (.arr (item :: gathered).reverse, rest)
      | _ => none

/-- The fields from here to the closing brace. -/
def readFields? : Nat → (depth : Nat) → Dict Json → Reader Json
  | 0, _, _, _ => none
  | fuel + 1, depth, gathered, text =>
    match skipBlanks text with
    | '"' :: rest => match readString? rest with
      | none => none
      | some (key, rest) => match skipBlanks rest with
        | ':' :: rest => match readValue? fuel depth (skipBlanks rest) with
          | none => none
          | some (value, rest) => match skipBlanks rest with
            | ',' :: rest => readFields? fuel depth (gathered.insert key value) rest
            | '\x7d' :: rest => some (.obj (gathered.insert key value), rest)
            | _ => none
        | _ => none
    | _ => none

end

/-- The value of a text whose containers nest at most `depth` deep. -/
def read? (depth : Nat) (text : String) : Option Json :=
  let cs := text.toList
  match readValue? (cs.length + 1) depth (skipBlanks cs) with
  | some (value, rest) => if (skipBlanks rest).isEmpty then some value else none
  | none => none

/-- How many containers may nest in a document. -/
def nestingLimit : Nat := 127

end Json

end DataSchema
