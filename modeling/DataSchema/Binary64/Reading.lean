import DataSchema.Binary64

/-!
# Reading decimal numbers

`ofDecimal?` gives the binary64 number nearest to a decimal, and `ofText?` reads a decimal literal
with it, so text is rounded once. `scaled?` reads a significand and a power of ten in steps, each
of which rounds; a long significand or a far exponent may then miss the nearest number.

In all of them `none` stands for a result that is not finite.
-/

namespace DataSchema

/-- The value of a decimal digit. -/
def digitValue (c : Char) : Nat := c.toNat - '0'.toNat

/-- The number written by a row of decimal digits; zero for the empty row. -/
def natOfDigits (digits : List Char) : Nat :=
  digits.foldl (fun n c => 10 * n + digitValue c) 0

/-- The digits at the head of a text, and what follows them. -/
def spanDigits (text : List Char) : List Char × List Char := text.span Char.isDigit

/-- A sign at the head of a text, and what follows it. -/
def spanSign : List Char → Bool × List Char
  | '-' :: rest => (true, rest)
  | '+' :: rest => (false, rest)
  | rest => (false, rest)

/-- An integer with an optional sign and at least one decimal digit. -/
def readInt? (text : List Char) : Option Int :=
  let (negative, digits) := spanSign text
  if digits.isEmpty || !digits.all Char.isDigit then none
  else some (if negative then -(natOfDigits digits : Int) else natOfDigits digits)

namespace Binary64

/-- The power of ten with an exponent. -/
def tenPow (exponent : Nat) : Nat := Nat.pow 10 exponent

/-- The number nearest to `digits * 10 ^ exponent`. Powers of ten far outside the range of finite
numbers are decided by the place of the first digit, without computing the power. -/
def ofDecimal? (negative : Bool) (digits : Nat) (exponent : Int) : Option Binary64 :=
  let place := exponent + (Nat.toDigits 10 digits).length
  if digits = 0 ∨ place < -340 then some (signedZero negative)
  else if 340 < place then none
  else nearest negative (digits * tenPow exponent.toNat) (tenPow (-exponent).toNat)

/-- The exponent part of a decimal literal: empty, or a mark and an integer. -/
def readExponent? : List Char → Option Int
  | [] => some 0
  | mark :: rest => if mark = 'e' ∨ mark = 'E' then readInt? rest else none

/-- A decimal literal: a sign, digits with an optional point among or beside them, and an exponent.
At least one digit is needed. -/
def ofText? (text : List Char) : Option Binary64 :=
  let (negative, body) := spanSign text
  let (whole, rest) := spanDigits body
  let (fraction, rest) := match rest with
    | '.' :: rest => spanDigits rest
    | rest => ([], rest)
  if whole.isEmpty && fraction.isEmpty then none
  else do
    let exponent ← readExponent? rest
    ofDecimal? negative (natOfDigits (whole ++ fraction)) (exponent - fraction.length)

/-- `x * 10 ^ exponent`, by one multiplication or division when the power of ten is itself finite.
A smaller power is reached through divisions by `10 ^ 308`, of which three leave zero. -/
def scale? : Nat → Binary64 → Int → Option Binary64
  | fuel, x, exponent =>
    if exponent.natAbs ≤ 308 then do
      let power ← ofDecimal? false 1 exponent.natAbs
      if 0 ≤ exponent then x.mul? power else x.div? power
    else if x.units = 0 then some x
    else if 0 ≤ exponent then none
    else match fuel with
      | 0 => some (signedZero x.negative)
      | fuel + 1 => do
        let power ← ofDecimal? false 1 308
        scale? fuel (← x.div? power) (exponent + 308)

/-- `significand * 10 ^ exponent`, where the significand is rounded before it is scaled. -/
def scaled? (negative : Bool) (significand : Nat) (exponent : Int) : Option Binary64 := do
  scale? 3 (← nearest negative significand 1) exponent

end Binary64

end DataSchema
