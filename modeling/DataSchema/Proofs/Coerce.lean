import DataSchema.Coerce
import DataSchema.Proofs.Binary64
import DataSchema.Proofs.Form.Fields
import Mathlib.Data.List.Induction
import Mathlib.Data.List.TakeWhile
import Mathlib.Data.Nat.Digits.Defs

/-!
# Reading integers

A signed 64-bit integer may be written as a text: a sign, if any, and decimal digits (`Spells`).

**Theorem (`int64_of_spells`).** An integer in the range is read as it is written, whatever the length
of its text. One out of the range is an error and gives the default, except just below the range: a
text that is not read exactly is read as a number, which is rounded, and the integers from
`-2 ^ 63 - 1024` on are rounded to `-2 ^ 63` before the range is looked at (`int64_belowRange`).

At the upper end rounding goes the other way, since `2 ^ 63` is itself out of the range: rounding never
goes below the leading bit (`twoPow_le_roundedNat`).
-/

namespace DataSchema

/-! ## Rows of digits -/

/-- The number that a row of decimal digits stands for, the last digit counting ones. -/
def decimalValue (digits : List Char) : Nat :=
  Nat.ofDigits 10 (digits.reverse.map fun c => c.toNat - 48)

theorem natOfDigits_eq (digits : List Char) : natOfDigits digits = decimalValue digits := by
  induction digits using List.reverseRecOn with
  | nil => rfl
  | append_singleton digits c ih =>
    have hlast : natOfDigits (digits ++ [c]) = 10 * natOfDigits digits + digitValue c := by
      rw [natOfDigits, List.foldl_append]
      rfl
    rw [hlast, ih, decimalValue, decimalValue, List.reverse_append, List.reverse_singleton,
      List.singleton_append, List.map_cons, Nat.ofDigits_cons, Nat.add_comm]
    rfl

/-- A text that writes an integer: one or more decimal digits, and a sign before them if any. -/
inductive Spells : List Char → Int → Prop
  | plain {digits : List Char} (ne : digits ≠ []) (decimal : ∀ c ∈ digits, c.isDigit = true) :
      Spells digits (decimalValue digits)
  | plus {digits : List Char} (ne : digits ≠ []) (decimal : ∀ c ∈ digits, c.isDigit = true) :
      Spells ('+' :: digits) (decimalValue digits)
  | minus {digits : List Char} (ne : digits ≠ []) (decimal : ∀ c ∈ digits, c.isDigit = true) :
      Spells ('-' :: digits) (-(decimalValue digits : Int))

variable {text : List Char} {z : Int}

/-- What a text that writes an integer is taken apart into. -/
theorem Spells.exists_spanSign (h : Spells text z) :
    ∃ (negative : Bool) (digits : List Char), spanSign text = (negative, digits) ∧ digits ≠ [] ∧
      (∀ c ∈ digits, c.isDigit = true) ∧
      z = if negative then -(natOfDigits digits : Int) else natOfDigits digits := by
  cases h with
  | @plain digits ne decimal =>
    refine ⟨false, text, ?_, ne, decimal, by simp [natOfDigits_eq]⟩
    obtain ⟨c, rest, rfl⟩ := List.exists_cons_of_ne_nil ne
    have hdigit := decimal c List.mem_cons_self
    unfold spanSign
    split
    · next heq => cases heq; exact absurd hdigit (by decide)
    · next heq => cases heq; exact absurd hdigit (by decide)
    · rfl
  | @plus digits ne decimal => exact ⟨false, digits, rfl, ne, decimal, by simp [natOfDigits_eq]⟩
  | @minus digits ne decimal => exact ⟨true, digits, rfl, ne, decimal, by simp [natOfDigits_eq]⟩

theorem Spells.readInt? (h : Spells text z) : DataSchema.readInt? text = some z := by
  obtain ⟨negative, digits, hspan, hne, hdigits, rfl⟩ := h.exists_spanSign
  have hall : digits.all Char.isDigit = true := List.all_eq_true.2 hdigits
  simp [DataSchema.readInt?, hspan, hall, hne]

theorem Spells.ofText? (h : Spells text z) :
    ∃ (negative : Bool) (m : Nat), z = (if negative then -(m : Int) else m) ∧
      Binary64.ofText? text = Binary64.ofDecimal? negative m 0 := by
  obtain ⟨negative, digits, hspan, hne, hdigits, rfl⟩ := h.exists_spanSign
  refine ⟨negative, natOfDigits digits, rfl, ?_⟩
  have hdigits : spanDigits digits = (digits, []) := by
    rw [spanDigits, List.span_eq_takeWhile_dropWhile, List.takeWhile_eq_self_iff.2 hdigits,
      List.dropWhile_eq_nil_iff.2 hdigits]
  simp [Binary64.ofText?, hspan, hdigits, hne, Binary64.readExponent?]

/-! ## Rounding integers out of the range -/

namespace Binary64

variable {negative : Bool} {m : Nat} {x : Binary64}

/-- The decimal with all its digits before the point is an integer, rounded once, unless it is
certain to overflow. -/
theorem ofDecimal?_zero_exponent (negative : Bool) (h : m ≠ 0) :
    ofDecimal? negative m 0 =
      if 340 < (Nat.toDigits 10 m).length then none else nearest negative m 1 := by
  unfold ofDecimal?
  have hplace : ¬(m = 0 ∨ (0 : Int) + ((Nat.toDigits 10 m).length : Nat) < -340) := by omega
  have hoverflow : (340 : Int) < 0 + ((Nat.toDigits 10 m).length : Nat) ↔
      340 < (Nat.toDigits 10 m).length := by omega
  simp only [if_neg hplace, hoverflow]
  rw [show tenPow (0 : Int).toNat = 1 from rfl, Nat.mul_one]
  rfl

theorem toInt?_of_ofDecimal? (h : 63 ≤ m.log2) (hx : ofDecimal? negative m 0 = some x) :
    x.toInt? = some (if negative then -(roundedNat m : Int) else roundedNat m) := by
  have h0 : m ≠ 0 := by
    rintro rfl
    exact absurd h (by decide)
  rw [ofDecimal?_zero_exponent negative h0] at hx
  split at hx
  · cases hx
  · rw [nearest_natCast negative (by omega)] at hx
    exact toInt?_of_ofUnits? hx

theorem le_log2_of_le (h : 9223372036854775808 ≤ m) : 63 ≤ m.log2 :=
  (le_log2_iff (by omega)).2 (Nat.le_trans (by decide) h)

/-- From `2 ^ 63` on rounding gives `2 ^ 63` at least. -/
theorem le_roundedNat (h : 9223372036854775808 ≤ m) : 9223372036854775808 ≤ roundedNat m := by
  have hlog := le_log2_of_le h
  calc 9223372036854775808 = twoPow 63 := by decide
    _ ≤ twoPow m.log2 := twoPow_le_twoPow hlog
    _ ≤ roundedNat m := twoPow_le_roundedNat (by omega)

theorem log2_eq_of_lt (h : 9223372036854775808 ≤ m) (hlt : m < 18446744073709551616) :
    m.log2 = 63 := by
  have hlog := le_log2_of_le h
  have hhigh : m.log2 < 64 := (log2_lt_iff (by omega)).2 (Nat.lt_of_lt_of_le hlt (by decide))
  omega

/-- Numbers from `2 ^ 63` to `2 ^ 64` are spaced by `2 ^ 11`. -/
theorem roundedNat_of_lt (h : 9223372036854775808 ≤ m) (hlt : m < 18446744073709551616) :
    roundedNat m = roundHalfEven m 2048 * 2048 := by
  rw [roundedNat, log2_eq_of_lt h hlt, show twoPow (63 - 52) = 2048 by decide]

theorem roundedNat_of_le (h : 9223372036854775808 ≤ m) (hle : m ≤ 9223372036854776832) :
    roundedNat m = 9223372036854775808 := by
  rw [roundedNat_of_lt h (by omega)]
  have hquotient : m / 2048 = 4503599627370496 := by omega
  have htwice : 2 * (m % 2048) < 2048 ∨ (2 * (m % 2048) = 2048 ∧ m / 2048 % 2 = 0) := by omega
  dsimp only [roundHalfEven]
  rw [if_pos htwice, hquotient]

theorem lt_roundedNat (h : 9223372036854776832 < m) : 9223372036854775808 < roundedNat m := by
  by_cases hlt : m < 18446744073709551616
  · rw [roundedNat_of_lt (by omega) hlt]
    unfold roundHalfEven
    dsimp only
    split <;> omega
  · have hlog : 64 ≤ m.log2 :=
      (le_log2_iff (by omega)).2 (Nat.le_trans (by decide) (Nat.le_of_not_lt hlt))
    calc 9223372036854775808 < twoPow 64 := by decide
      _ ≤ twoPow m.log2 := twoPow_le_twoPow hlog
      _ ≤ roundedNat m := twoPow_le_roundedNat (by omega)

theorem exists_ofDecimal?_of_le (negative : Bool) (h : 9223372036854775808 ≤ m)
    (hle : m ≤ 9223372036854776832) : ∃ x, ofDecimal? negative m 0 = some x := by
  have hlength : (Nat.toDigits 10 m).length ≤ 20 :=
    (Nat.length_toDigits_le_iff (by decide) (by decide)).2 (by omega)
  have hrepresentable : Representable (roundedNat m * one) := by
    rw [roundedNat_of_le h hle, show 9223372036854775808 = 1 * twoPow 63 by decide,
      Nat.mul_assoc, one, ← twoPow_add]
    exact representable_mul_twoPow (by decide) (by decide)
  rw [ofDecimal?_zero_exponent negative (by omega), if_neg (by omega),
    nearest_natCast negative (Nat.le_trans (by decide) (le_log2_of_le h)), ofUnits?,
    dif_pos hrepresentable]
  exact ⟨_, rfl⟩

end Binary64

theorem int64OfInt?_eq_some {n : Int64} : int64OfInt? z = some n ↔ n.toInt = z := by
  constructor
  · unfold int64OfInt?
    split
    · next hrange =>
      rintro ⟨⟩
      exact Int64.toInt_ofInt_of_le hrange.1 hrange.2
    · nofun
  · rintro rfl
    exact Decoder.int64OfInt?_toInt n

theorem int64OfInt?_eq_none :
    int64OfInt? z = none ↔ z < -9223372036854775808 ∨ 9223372036854775808 ≤ z := by
  unfold int64OfInt?
  split <;> simp <;> omega

/-- An integer out of the range that is not among the 1024 below it is still out of the range when it
has been rounded. -/
theorem int64OfInt?_roundedNat {negative : Bool} {m : Nat}
    (hz : z = if negative then -(m : Int) else m)
    (hrange : z < -9223372036854776832 ∨ 9223372036854775808 ≤ z) :
    int64OfInt? (if negative then -(Binary64.roundedNat m : Int) else Binary64.roundedNat m)
      = none := by
  rw [int64OfInt?_eq_none]
  cases negative with
  | false =>
    simp only [Bool.false_eq_true, if_false] at hz ⊢
    have hrounded := Binary64.le_roundedNat (m := m) (by omega)
    omega
  | true =>
    simp only [if_true] at hz ⊢
    have hrounded := Binary64.lt_roundedNat (m := m) (by omega)
    omega

/-! ## Texts -/

namespace Coerce

variable {s : String} {x : Binary64} {n : Int64}

theorem int64_ofInt64 (default : Option Int64) (n : Int64) :
    int64 default (some (.ofInt64 n)) = .of (some n) := by
  have hexact : exactInt64? (.ofInt64 n) = some n := Decoder.int64OfInt?_toInt n
  rw [Json.ofInt64] at hexact ⊢
  simp only [int64, hexact]

theorem exactInt64?_str (h : Spells (Text.trimChars s.toList) z) :
    exactInt64? (.str s) = int64OfInt? z := by
  simp only [exactInt64?, h.readInt?, Option.bind_some]

/-- A text that is not read exactly and is not a number is an error. -/
theorem int64_of_unread (default : Option Int64) (hexact : exactInt64? (.str s) = none)
    (hnumber : numberOf? (.str s) = none) :
    int64 default (some (.str s)) =
      .failed default (notValid (.str s) "number (or number string)") := by
  simp only [int64, hexact, integer, number, hnumber, Coerced.failed, Coerced.hasError,
    List.isEmpty_cons, Bool.not_false, if_true]

theorem integer_of_whole (hnumber : numberOf? (.str s) = some x) (hwhole : x.toInt? = some z) :
    integer none (some (.str s)) = .of (some x) := by
  have hisWhole : x.isWhole = true := by rw [Binary64.isWhole, hwhole]; rfl
  simp only [integer, number, hnumber, Coerced.hasError, Coerced.of, List.isEmpty_nil,
    Bool.not_true, hisWhole, if_true]

/-- A text that is not read exactly but is a whole number is taken as that number, if it is in the
range. -/
theorem int64_of_whole (default : Option Int64) (hexact : exactInt64? (.str s) = none)
    (hnumber : numberOf? (.str s) = some x) (hwhole : x.toInt? = some z)
    (hin : int64OfInt? z = some n) : int64 default (some (.str s)) = .of (some n) := by
  have hrange : x.toInt64? = some n := by rw [Binary64.toInt64?, hwhole, Option.bind_some, hin]
  simp only [int64, hexact, integer_of_whole hnumber hwhole, Coerced.hasError, Coerced.of,
    List.isEmpty_nil, Bool.not_true, Bool.false_eq_true, if_false, Option.bind_some, hrange]

/-- Out of the range that number is an error. -/
theorem int64_of_outside (default : Option Int64) (hexact : exactInt64? (.str s) = none)
    (hnumber : numberOf? (.str s) = some x) (hwhole : x.toInt? = some z)
    (hout : int64OfInt? z = none) :
    int64 default (some (.str s)) =
      .failed default ("(" ++ Json.shown (some (.str s)) ++ ") is outside the integer range") := by
  have hrange : x.toInt64? = none := by rw [Binary64.toInt64?, hwhole, Option.bind_some, hout]
  simp only [int64, hexact, integer_of_whole hnumber hwhole, Coerced.hasError, Coerced.of,
    List.isEmpty_nil, Bool.not_true, Bool.false_eq_true, if_false, Option.bind_some, hrange]

theorem int64_inRange (default : Option Int64) (h : Spells (Text.trimChars s.toList) z)
    (hlow : -9223372036854775808 ≤ z) (hhigh : z < 9223372036854775808) :
    ∃ n : Int64, n.toInt = z ∧ int64 default (some (.str s)) = .of (some n) := by
  have hin : int64OfInt? z = some (.ofInt z) := if_pos ⟨hlow, hhigh⟩
  refine ⟨.ofInt z, int64OfInt?_eq_some.1 hin, ?_⟩
  simp only [int64, exactInt64?_str h, hin]

/-- The 1024 integers below the range are rounded to its least. -/
theorem int64_justBelow (default : Option Int64) (h : Spells (Text.trimChars s.toList) z)
    (hlow : -9223372036854776832 ≤ z) (hhigh : z < -9223372036854775808) :
    int64 default (some (.str s)) = .of (some Int64.minValue) := by
  have hexact : exactInt64? (.str s) = none :=
    (exactInt64?_str h).trans (int64OfInt?_eq_none.2 (.inl hhigh))
  obtain ⟨negative, m, hz, hnumber⟩ := h.ofText?
  obtain rfl : negative = true := by
    by_contra hpositive
    rw [if_neg hpositive] at hz
    omega
  rw [if_pos rfl] at hz
  have hm : 9223372036854775808 ≤ m ∧ m ≤ 9223372036854776832 := by omega
  obtain ⟨x, hx⟩ := Binary64.exists_ofDecimal?_of_le true hm.1 hm.2
  have hwhole := Binary64.toInt?_of_ofDecimal? (Binary64.le_log2_of_le hm.1) hx
  rw [Binary64.roundedNat_of_le hm.1 hm.2] at hwhole
  exact int64_of_whole default hexact (hnumber.trans hx) hwhole rfl

/-- All other integers out of the range stay out of it when they are rounded, if they do not
overflow. -/
theorem int64_outOfRange (default : Option Int64) (h : Spells (Text.trimChars s.toList) z)
    (hrange : z < -9223372036854776832 ∨ 9223372036854775808 ≤ z) :
    ∃ error, int64 default (some (.str s)) = .failed default error := by
  have hexact : exactInt64? (.str s) = none :=
    (exactInt64?_str h).trans (int64OfInt?_eq_none.2 (by omega))
  obtain ⟨negative, m, hz, hnumber⟩ := h.ofText?
  cases hx : Binary64.ofDecimal? negative m 0 with
  | none => exact ⟨_, int64_of_unread default hexact (hnumber.trans hx)⟩
  | some x =>
    have hm : 9223372036854775808 ≤ m := by split at hz <;> omega
    have hwhole := Binary64.toInt?_of_ofDecimal? (Binary64.le_log2_of_le hm) hx
    exact ⟨_, int64_of_outside default hexact (hnumber.trans hx) hwhole
      (int64OfInt?_roundedNat hz hrange)⟩

/-- **What a text of an integer is read as.** An integer in the range is read as it is written; one
out of the range is an error, but for the integers just below the range, which are read as its
least. -/
theorem int64_of_spells (default : Option Int64) (h : Spells (Text.trimChars s.toList) z) :
    (-9223372036854775808 ≤ z ∧ z < 9223372036854775808 →
      ∃ n : Int64, n.toInt = z ∧ int64 default (some (.str s)) = .of (some n)) ∧
    (-9223372036854776832 ≤ z ∧ z < -9223372036854775808 →
      int64 default (some (.str s)) = .of (some Int64.minValue)) ∧
    (z < -9223372036854776832 ∨ 9223372036854775808 ≤ z →
      ∃ error, int64 default (some (.str s)) = .failed default error) :=
  ⟨fun hrange => int64_inRange default h hrange.1 hrange.2,
    fun hrange => int64_justBelow default h hrange.1 hrange.2, int64_outOfRange default h⟩

/-- A text with white space around it, of an integer that no binary64 number is. -/
theorem int64_of_spells_padded :
    Spells (Text.trimChars " +9007199254740993\n".toList) 9007199254740993 ∧
      ∃ n : Int64, n.toInt = 9007199254740993 ∧
        int64 (some 7) (some (.str " +9007199254740993\n")) = .of (some n) := by
  have hspells : Spells (Text.trimChars " +9007199254740993\n".toList) 9007199254740993 := by
    have htext : Text.trimChars " +9007199254740993\n".toList =
        '+' :: "9007199254740993".toList := by decide +kernel
    have hvalue : (decimalValue "9007199254740993".toList : Int) = 9007199254740993 := by
      decide +kernel
    rw [htext, ← hvalue]
    exact .plus (by decide) (List.all_eq_true.1 (by decide +kernel))
  exact ⟨hspells, (int64_of_spells (some 7) hspells).1 (by decide)⟩

/-- The integer below the range is read as the least one in it. -/
theorem int64_belowRange :
    Spells (Text.trimChars "-9223372036854775809".toList) (-9223372036854775809) ∧
      (int64 (some 7) (some (.str "-9223372036854775809"))).value = some Int64.minValue ∧
      (int64 (some 7) (some (.str "-9223372036854775809"))).hasError = false ∧
      Int64.minValue.toInt ≠ -9223372036854775809 := by
  refine ⟨?_, by decide +kernel, by decide +kernel, by decide⟩
  have htext : Text.trimChars "-9223372036854775809".toList =
      '-' :: "9223372036854775809".toList := by decide +kernel
  have hvalue : (decimalValue "9223372036854775809".toList : Int) = 9223372036854775809 := by
    decide +kernel
  rw [htext, ← hvalue]
  exact .minus (by decide) (List.all_eq_true.1 (by decide +kernel))

end Coerce

end DataSchema
