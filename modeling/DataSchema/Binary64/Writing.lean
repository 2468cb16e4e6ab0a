import DataSchema.Binary64.Reading

/-!
# Shortest decimal text

The text of a number has the fewest digits that read back as the number, and of those the digits
nearest to it. The numbers that read back as `x` fill an interval around it, with its ends when the
last bit of `x` is zero; on the grid of decimals with a given count of digits, the two neighbours
of `x` decide whether the interval holds a point of the grid.

A `Layout` says where the digits stand with an exponent, and how an exact tie between two
neighbours is settled.
-/

namespace DataSchema

namespace Binary64

/-- Which of two equally near decimals is written. -/
inductive Tie where
  | toEven
  | up
deriving DecidableEq, Repr

/-- The way a number's digits are set out. -/
structure Layout where
  /-- Whether a number whose first digit has this power of ten is written without an exponent. -/
  plain : Int → Bool
  /-- Whether a whole number is written with a fraction of zero. -/
  wholeFraction : Bool
  /-- Whether an exponent that is not negative is written with its sign. -/
  plusSign : Bool
  tie : Tie

/-- The power of ten of the first digit of a positive magnitude. Every positive magnitude is above
`10 ^ -343`, so scaled by `10 ^ 343` it has a digit before its point. -/
def decimalExponent (units : Nat) : Int :=
  (Nat.toDigits 10 (units * tenPow 343 / one)).length - 344

/-- The interval of decimals that read back as a magnitude, in quarters of a unit: the halfway
points to its neighbours. Below a power of two the neighbours are closer together. -/
structure Interval where
  low : Nat
  high : Nat
  closed : Bool

def interval (units : Nat) : Interval :=
  let step := twoPow (units.log2 - 52)
  let below := if units = twoPow units.log2 ∧ 1 < step then step else 2 * step
  { low := 4 * units - below, high := 4 * units + 2 * step, closed := units / step % 2 = 0 }

/-- The decimal `digits * 10 ^ exponent` with the given count of digits that reads back as the
magnitude, if there is one. -/
def onGrid? (tie : Tie) (units : Nat) (exponent : Int) : Option Nat :=
  let numerator := tenPow (-exponent).toNat
  let denominator := tenPow exponent.toNat * one
  let value := 4 * units * numerator
  let lower := units * numerator / denominator
  let at_ (digits : Nat) := 4 * digits * denominator
  let bounds := interval units
  let inside (digits : Nat) : Bool :=
    if bounds.closed then
      bounds.low * numerator ≤ at_ digits && at_ digits ≤ bounds.high * numerator
    else
      bounds.low * numerator < at_ digits && at_ digits < bounds.high * numerator
  let upper := lower + 1
  match inside lower, inside upper with
  | false, false => none
  | true, false => some lower
  | false, true => some upper
  | true, true =>
    let belowGap := value - at_ lower
    let aboveGap := at_ upper - value
    if belowGap < aboveGap then some lower
    else if aboveGap < belowGap then some upper
    else match tie with
      | .up => some upper
      | .toEven => some (if lower % 2 = 0 then lower else upper)

/-- The shortest decimal from a count of digits on: its digits and its exponent. Seventeen digits
always suffice. -/
def shortestFrom (tie : Tie) (units : Nat) (first : Int) : (left count : Nat) → Nat × Int
  | 0, _ => (0, 0)
  | left + 1, count =>
    let exponent := first - count + 1
    match onGrid? tie units exponent with
    | some digits => (digits, exponent)
    | none => shortestFrom tie units first left (count + 1)

/-- The shortest decimal of a magnitude: its digits and its exponent. -/
def shortest (tie : Tie) (units : Nat) : Nat × Int :=
  if units = 0 then (0, 0) else shortestFrom tie units (decimalExponent units) 17 1

def zeros (n : Nat) : List Char := List.replicate n '0'

/-- Digits whose first has the power of ten `place`, with a point where the ones end. -/
def plainText (digits : List Char) (place : Int) (wholeFraction : Bool) : List Char :=
  if place < 0 then '0' :: '.' :: zeros (-place - 1).toNat ++ digits
  else
    let ones := place.toNat + 1
    if digits.length ≤ ones then
      digits ++ zeros (ones - digits.length) ++ (if wholeFraction then ['.', '0'] else [])
    else digits.take ones ++ '.' :: digits.drop ones

/-- Digits with a point after the first, and the power of ten of the first. -/
def exponentText (digits : List Char) (place : Int) (plusSign : Bool) : List Char :=
  let significand := match digits with
    | [] => []
    | [d] => [d]
    | d :: rest => d :: '.' :: rest
  let sign := if place < 0 then ['-'] else if plusSign then ['+'] else []
  significand ++ 'e' :: sign ++ Nat.toDigits 10 place.natAbs

/-- The text of a number in a layout. -/
def text (layout : Layout) (x : Binary64) : String :=
  let (digits, exponent) := shortest layout.tie x.units
  let row := Nat.toDigits 10 digits
  let place := exponent + row.length - 1
  let body :=
    if layout.plain place then
      plainText (row.reverse.dropWhile (· = '0')).reverse place layout.wholeFraction
    else exponentText (row.reverse.dropWhile (· = '0')).reverse place layout.plusSign
  let body := if digits = 0 then plainText ['0'] 0 layout.wholeFraction else body
  String.ofList (if x.negative then '-' :: body else body)

end Binary64

end DataSchema
