import DataSchema.Binary64
import Mathlib.Data.Rat.Floor

/-!
# The value of a finite number

A finite number stands for a rational number (`toRat`): its signed magnitude in units of `2 ^ -1074`.

**Theorems (`toRat_floor`, `toRat_ceil`).** Rounding down and up is exact: the result is the greatest
integer not above the number, or the least not below it, and is not rounded any further. So `toInt?`,
which gives the integer that a number is (`toInt?_eq_some`), always gives one after `floor` and `ceil`.

**Theorem (`nearest_natCast`).** An integer of more than 53 bits is rounded to a multiple of the power
of two that its last bits make up (`roundedNat`), and never below its leading bit.
-/

namespace DataSchema.Binary64

variable {x : Binary64} {n : Int}

/-- The rational number that a finite number stands for. -/
def toRat (x : Binary64) : ℚ := (x.signedUnits : ℚ) / (one : ℚ)

theorem one_pos : 0 < one := twoPow_pos unitPlaces

theorem one_ne_zero : (one : ℚ) ≠ 0 := Nat.cast_ne_zero.2 one_pos.ne'

theorem toRat_eq_intCast : x.toRat = n ↔ x.signedUnits = n * one := by
  rw [toRat, div_eq_iff one_ne_zero]
  norm_cast

/-! ## Integers -/

theorem natAbs_signedUnits (x : Binary64) : x.signedUnits.natAbs = x.units := by
  unfold signedUnits
  split <;> simp

/-- A number is an integer if that is its value. -/
theorem toInt?_eq_some : x.toInt? = some n ↔ x.toRat = n := by
  rw [toRat_eq_intCast, toInt?]
  split
  · next hdvd =>
    obtain ⟨k, hk⟩ := hdvd
    have hone : (one : Int) ≠ 0 := Int.natCast_ne_zero.2 one_pos.ne'
    rw [signedUnits, hk, Nat.mul_div_cancel_left k one_pos, Option.some.injEq]
    split
    · rw [Nat.cast_mul, mul_comm (one : Int), ← neg_mul, mul_left_inj' hone]
    · rw [Nat.cast_mul, mul_comm (one : Int), mul_left_inj' hone]
  · next hdvd =>
    simp only [reduceCtorEq, false_iff]
    intro hunits
    refine hdvd ⟨n.natAbs, ?_⟩
    rw [← natAbs_signedUnits, hunits, Int.natAbs_mul, Int.natAbs_natCast, Nat.mul_comm]

/-! ## Rounding to integers -/

theorem signedUnits_floor (x : Binary64) :
    x.floor.signedUnits = x.signedUnits / (one : Int) * one := by
  unfold floor signedUnits
  cases x.negative with
  | false =>
    simp only [Bool.false_eq_true, if_false, wholeBelow]
    push_cast
    rfl
  | true =>
    simp only [if_true, wholeAbove]
    rw [Int.neg_ediv, Int.sign_eq_one_of_pos (Int.natCast_pos.2 one_pos)]
    by_cases hdvd : one ∣ x.units
    · rw [if_pos hdvd, if_pos (Int.natCast_dvd_natCast.2 hdvd), sub_zero, neg_mul,
        Int.ediv_mul_cancel (Int.natCast_dvd_natCast.2 hdvd)]
    · rw [if_neg hdvd, if_neg (mt Int.natCast_dvd_natCast.1 hdvd)]
      push_cast
      ring

/-- Rounding down is exact. -/
theorem toRat_floor (x : Binary64) : x.floor.toRat = ⌊x.toRat⌋ := by
  rw [toRat_eq_intCast, signedUnits_floor, toRat, Rat.floor_intCast_div_natCast]

theorem toRat_neg (x : Binary64) : x.neg.toRat = -x.toRat := by
  have hunits : x.neg.signedUnits = -x.signedUnits := by
    unfold neg signedUnits
    cases x.negative <;> simp
  rw [toRat, toRat, hunits, Int.cast_neg, neg_div]

theorem ceil_eq (x : Binary64) : x.ceil = x.neg.floor.neg := by
  unfold ceil floor neg
  cases x.negative <;> rfl

/-- Rounding up is exact. -/
theorem toRat_ceil (x : Binary64) : x.ceil.toRat = ⌈x.toRat⌉ := by
  rw [ceil_eq, toRat_neg, toRat_floor, toRat_neg, Int.floor_neg, Int.cast_neg, neg_neg]

/-! ## The number nearest to an integer -/

theorem toInt?_of_ofUnits? {negative : Bool} {k : Nat} (h : ofUnits? negative (k * one) = some x) :
    x.toInt? = some (if negative then -(k : Int) else k) := by
  unfold ofUnits? at h
  split at h
  · obtain rfl := Option.some.inj h
    rw [toInt?_eq_some, toRat_eq_intCast, signedUnits]
    cases negative with
    | false => simp only [Bool.false_eq_true, if_false, Nat.cast_mul]
    | true => simp only [if_true, Nat.cast_mul, neg_mul]
  · cases h

/-- An integer rounded to its 53 leading bits, ties to even. -/
def roundedNat (m : Nat) : Nat :=
  roundHalfEven m (twoPow (m.log2 - 52)) * twoPow (m.log2 - 52)

theorem roundHalfEven_mul_right (num den : Nat) {c : Nat} (hc : 0 < c) :
    roundHalfEven (num * c) (den * c) = roundHalfEven num den := by
  have hlt : 2 * (num % den) * c < den * c ↔ 2 * (num % den) < den := Nat.mul_lt_mul_right hc
  have heq : 2 * (num % den) * c = den * c ↔ 2 * (num % den) = den := Nat.mul_left_inj hc.ne'
  simp only [roundHalfEven, Nat.mul_div_mul_right _ _ hc, Nat.mul_mod_mul_right, ← Nat.mul_assoc,
    hlt, heq]

theorem div_le_roundHalfEven (num den : Nat) : num / den ≤ roundHalfEven num den := by
  unfold roundHalfEven
  dsimp only
  split
  · exact Nat.le_refl _
  · exact Nat.le_succ _

theorem log2_mul_one {m : Nat} (h : m ≠ 0) : (m * one).log2 = m.log2 + unitPlaces := by
  have h0 : m * one ≠ 0 := Nat.mul_ne_zero h one_pos.ne'
  have hlow : twoPow m.log2 ≤ m := (le_log2_iff h).1 (Nat.le_refl _)
  have hhigh : m < twoPow (m.log2 + 1) := (log2_lt_iff h).1 (Nat.lt_succ_self _)
  refine Nat.le_antisymm (Nat.le_of_lt_succ ((log2_lt_iff h0).2 ?_)) ((le_log2_iff h0).2 ?_)
  · rw [Nat.succ_eq_add_one, Nat.add_right_comm, twoPow_add]
    exact Nat.mul_lt_mul_of_pos_right hhigh one_pos
  · rw [twoPow_add]
    exact Nat.mul_le_mul_right one hlow

theorem nearest_natCast (negative : Bool) {m : Nat} (h : 52 ≤ m.log2) :
    nearest negative m 1 = ofUnits? negative (roundedNat m * one) := by
  have h0 : m ≠ 0 := by
    rintro rfl
    exact absurd h (by decide)
  have hstep : twoPow (m.log2 + unitPlaces - 52) = twoPow (m.log2 - 52) * one := by
    rw [one, ← twoPow_add]
    congr 1
    omega
  simp only [nearest, Nat.div_one, Nat.one_mul, log2_mul_one h0, hstep]
  rw [roundHalfEven_mul_right _ _ one_pos, roundedNat, Nat.mul_assoc]

theorem twoPow_le_roundedNat {m : Nat} (h : 52 ≤ m.log2) : twoPow m.log2 ≤ roundedNat m := by
  have h0 : m ≠ 0 := by
    rintro rfl
    exact absurd h (by decide)
  have hpow : twoPow 52 * twoPow (m.log2 - 52) = twoPow m.log2 := by
    rw [← twoPow_add, Nat.add_sub_cancel' h]
  have hdiv : twoPow 52 ≤ m / twoPow (m.log2 - 52) := by
    rw [Nat.le_div_iff_mul_le (twoPow_pos _), hpow]
    exact (le_log2_iff h0).1 (Nat.le_refl _)
  rw [← hpow]
  exact Nat.mul_le_mul_right _ (Nat.le_trans hdiv (div_le_roundHalfEven _ _))

end DataSchema.Binary64
