/-!
# Finite 64-bit floating-point numbers

Every finite binary64 number is an integer multiple of `2 ^ -1074`. A number is kept as its sign
and that multiple, so comparing two numbers compares two integers, and floor and ceiling divide by
the constant `one`. Zero has both signs.

`nearest` rounds any fraction: to the closest number, of two equally close to the one whose last
bit is zero. It fails where the result would not be finite.
-/

namespace DataSchema

namespace Binary64

/-! ## Powers of two -/

/-- The power of two with an exponent. -/
def twoPow (exponent : Nat) : Nat := Nat.pow 2 exponent

theorem twoPow_pos (k : Nat) : 0 < twoPow k := Nat.two_pow_pos k

theorem twoPow_add (j k : Nat) : twoPow (j + k) = twoPow j * twoPow k := Nat.pow_add 2 j k

theorem twoPow_le_twoPow {j k : Nat} (h : j ≤ k) : twoPow j ≤ twoPow k :=
  Nat.pow_le_pow_right (by decide) h

theorem twoPow_dvd_twoPow {j k : Nat} (h : j ≤ k) : twoPow j ∣ twoPow k := Nat.pow_dvd_pow 2 h

theorem log2_lt_iff {n k : Nat} (h : n ≠ 0) : n.log2 < k ↔ n < twoPow k := Nat.log2_lt h

theorem le_log2_iff {n k : Nat} (h : n ≠ 0) : k ≤ n.log2 ↔ twoPow k ≤ n := Nat.le_log2 h

/-! ## Magnitudes -/

/-- A unit is `2 ^ -1074`, the smallest positive number. -/
def unitPlaces : Nat := 1074

/-- The number one, in units. -/
def one : Nat := twoPow unitPlaces

/-- A magnitude in units that a finite number can have: below `2 ^ 1024`, and with at most 53
significant bits. -/
def Representable (units : Nat) : Prop :=
  units < twoPow (1024 + unitPlaces) ∧ twoPow (units.log2 - 52) ∣ units

instance (units : Nat) : Decidable (Representable units) :=
  inferInstanceAs (Decidable (_ ∧ _))

theorem representable_mul_twoPow {n e : Nat} (hn : n < twoPow 53)
    (he : 53 + e ≤ 1024 + unitPlaces) : Representable (n * twoPow e) := by
  have hlt : n * twoPow e < twoPow (53 + e) := by
    rw [twoPow_add]
    exact Nat.mul_lt_mul_of_pos_right hn (twoPow_pos e)
  refine ⟨Nat.lt_of_lt_of_le hlt (twoPow_le_twoPow he), ?_⟩
  by_cases h0 : n * twoPow e = 0
  · rw [h0]; exact Nat.dvd_zero _
  · have hlog := (log2_lt_iff h0).2 hlt
    exact Nat.dvd_mul_left_of_dvd (twoPow_dvd_twoPow (by omega)) n

theorem representable_mul_one {n : Nat} (h : n < twoPow 53) : Representable (n * one) :=
  representable_mul_twoPow h (by decide)

theorem twoPow_dvd_of_le {n e : Nat} (h : Representable n) (hn : twoPow (e + 52) ≤ n) :
    twoPow e ∣ n := by
  have h0 : n ≠ 0 := by have := twoPow_pos (e + 52); omega
  have hlog := (le_log2_iff h0).2 hn
  exact Nat.dvd_trans (twoPow_dvd_twoPow (by omega)) h.2

theorem Representable.one_dvd {n : Nat} (h : Representable n)
    (hn : twoPow (unitPlaces + 52) ≤ n) : one ∣ n :=
  twoPow_dvd_of_le h hn

theorem representable_zero : Representable 0 :=
  ⟨twoPow_pos _, Nat.dvd_zero _⟩

/-- The multiple of `one` at or below a magnitude. -/
def wholeBelow (units : Nat) : Nat := units / one * one

/-- The multiple of `one` at or above a magnitude. -/
def wholeAbove (units : Nat) : Nat := if one ∣ units then units else (units / one + 1) * one

theorem div_twoPow_lt {n e k : Nat} (hn : n < twoPow (e + k)) : n / twoPow e < twoPow k := by
  rw [Nat.div_lt_iff_lt_mul (twoPow_pos e), ← twoPow_add, Nat.add_comm]
  exact hn

theorem div_one_lt {n : Nat} (hn : n < twoPow (unitPlaces + 52)) : n / one < twoPow 52 :=
  div_twoPow_lt hn

theorem Representable.wholeBelow {n : Nat} (h : Representable n) :
    Representable (wholeBelow n) := by
  by_cases hn : n < twoPow (unitPlaces + 52)
  · exact representable_mul_one (Nat.lt_trans (div_one_lt hn) (by decide))
  · rw [Binary64.wholeBelow, Nat.div_mul_cancel (h.one_dvd (Nat.le_of_not_lt hn))]
    exact h

theorem Representable.wholeAbove {n : Nat} (h : Representable n) :
    Representable (wholeAbove n) := by
  unfold Binary64.wholeAbove
  split
  · exact h
  · next hd =>
    have hn : n < twoPow (unitPlaces + 52) := Nat.lt_of_not_le fun hle => hd (h.one_dvd hle)
    exact representable_mul_one (Nat.lt_of_le_of_lt (div_one_lt hn) (by decide))

end Binary64

/-- A finite binary64 number: its sign, and its magnitude in units of `2 ^ -1074`. -/
structure Binary64 where
  negative : Bool
  units : Nat
  representable : Binary64.Representable units
deriving DecidableEq

namespace Binary64

/-- The integer nearest to `num / den`, an exact half going to the even neighbour. -/
def roundHalfEven (num den : Nat) : Nat :=
  let quotient := num / den
  let twice := 2 * (num % den)
  if twice < den ∨ (twice = den ∧ quotient % 2 = 0) then quotient else quotient + 1

/-- The number with this sign and magnitude, if there is one. -/
def ofUnits? (negative : Bool) (units : Nat) : Option Binary64 :=
  if h : Representable units then some ⟨negative, units, h⟩ else none

/-- The number nearest to `num / den`, ties to even; `none` when it overflows. Numbers of the size
of the quotient are spaced by a power of two, which is found from its leading bit. -/
def nearest (negative : Bool) (num den : Nat) : Option Binary64 :=
  let step := twoPow ((num * one / den).log2 - 52)
  ofUnits? negative (roundHalfEven (num * one) (den * step) * step)

/-- Positive zero. -/
def zero : Binary64 := ⟨false, 0, representable_zero⟩

instance : Inhabited Binary64 := ⟨zero⟩

/-- Zero of a given sign. -/
def signedZero (negative : Bool) : Binary64 := { zero with negative }

/-- The number nearest to an integer. -/
def ofInt? (n : Int) : Option Binary64 := nearest (n < 0) n.natAbs 1

/-- The value in units of `2 ^ -1074`, with its sign. -/
def signedUnits (x : Binary64) : Int := if x.negative then -(x.units : Int) else x.units

def neg (x : Binary64) : Binary64 := { x with negative := !x.negative }

/-- The product, rounded to nearest. -/
def mul? (x y : Binary64) : Option Binary64 :=
  nearest (x.negative != y.negative) (x.units * y.units) (one * one)

/-- The quotient, rounded to nearest. -/
def div? (x y : Binary64) : Option Binary64 :=
  if y.units = 0 then none else nearest (x.negative != y.negative) x.units y.units

/-! ## Comparisons

Numbers are compared by value, so both zeros are the same. -/

def sameValue (x y : Binary64) : Bool := x.signedUnits == y.signedUnits

def lt (x y : Binary64) : Bool := x.signedUnits < y.signedUnits

def le (x y : Binary64) : Bool := x.signedUnits ≤ y.signedUnits

/-! ## Whole numbers -/

/-- The greatest whole number not above `x`. -/
def floor (x : Binary64) : Binary64 :=
  if x.negative then ⟨true, wholeAbove x.units, x.representable.wholeAbove⟩
  else ⟨false, wholeBelow x.units, x.representable.wholeBelow⟩

/-- The least whole number not below `x`. -/
def ceil (x : Binary64) : Binary64 :=
  if x.negative then ⟨true, wholeBelow x.units, x.representable.wholeBelow⟩
  else ⟨false, wholeAbove x.units, x.representable.wholeAbove⟩

/-- The integer equal to `x`, if `x` is whole. -/
def toInt? (x : Binary64) : Option Int :=
  if one ∣ x.units then
    some (if x.negative then -((x.units / one : Nat) : Int) else (x.units / one : Nat))
  else none

def isWhole (x : Binary64) : Bool := x.toInt?.isSome

end Binary64

end DataSchema
