import Mathlib

/-!
# ASCII letters and digits, and rows of them

The kinds of ASCII characters are ranges of codes, so they exclude each other. `Stops test text` says
that a text does not begin with a character of a kind, as it is the case behind the longest row of
that kind (`exists_row`).
-/

namespace DataSchema.Text

variable {rest : List Char} {c : Char}

/-! ## Characters -/

theorem isUpper_iff : c.isUpper = true ↔ 65 ≤ c.toNat ∧ c.toNat ≤ 90 := by
  simp [Char.isUpper, UInt32.le_iff_toNat_le, ← Char.toNat_val]

theorem isLower_iff : c.isLower = true ↔ 97 ≤ c.toNat ∧ c.toNat ≤ 122 := by
  simp [Char.isLower, UInt32.le_iff_toNat_le, ← Char.toNat_val]

theorem isDigit_iff : c.isDigit = true ↔ 48 ≤ c.toNat ∧ c.toNat ≤ 57 := by
  simp [Char.isDigit, UInt32.le_iff_toNat_le, ← Char.toNat_val]

theorem not_isUpper_of_isDigit (h : c.isDigit = true) : c.isUpper = false := by
  rw [← Bool.not_eq_true, isUpper_iff]
  rw [isDigit_iff] at h
  omega

theorem not_isLower_of_isDigit (h : c.isDigit = true) : c.isLower = false := by
  rw [← Bool.not_eq_true, isLower_iff]
  rw [isDigit_iff] at h
  omega

theorem not_isUpper_of_isLower (h : c.isLower = true) : c.isUpper = false := by
  simpa using Char.not_isUpper_of_isLower h

theorem not_isLower_of_isUpper (h : c.isUpper = true) : c.isLower = false := by
  simpa using Char.not_isLower_of_isUpper h

theorem not_isAlpha_of_isDigit (h : c.isDigit = true) : c.isAlpha = false := by
  rw [Char.isAlpha, not_isUpper_of_isDigit h, not_isLower_of_isDigit h]
  rfl

theorem isAlpha_of_isUpper (h : c.isUpper = true) : c.isAlpha = true := by
  rw [Char.isAlpha, h, Bool.true_or]

theorem isAlpha_of_isLower (h : c.isLower = true) : c.isAlpha = true := by
  rw [Char.isAlpha, h, Bool.or_true]

theorem isAlphanum_of_isAlpha (h : c.isAlpha = true) : c.isAlphanum = true := by
  rw [Char.isAlphanum, h, Bool.true_or]

theorem isAlphanum_of_isDigit (h : c.isDigit = true) : c.isAlphanum = true := by
  rw [Char.isAlphanum, h, Bool.or_true]

/-! ## Rows of characters -/

/-- A text does not begin with a character of a kind. -/
def Stops (test : Char → Bool) (text : List Char) : Prop := ∀ c ∈ text.head?, test c = false

@[simp] theorem stops_nil (test : Char → Bool) : Stops test [] := nofun

@[simp] theorem stops_cons (test : Char → Bool) (c : Char) (text : List Char) :
    Stops test (c :: text) ↔ test c = false := by
  simp [Stops]

theorem stops_dropWhile (test : Char → Bool) (text : List Char) :
    Stops test (text.dropWhile test) := by
  induction text with
  | nil => exact stops_nil test
  | cons c text ih =>
    rw [List.dropWhile_cons]
    split
    · exact ih
    · next h => simpa using h

/-- What kind of characters a text does not begin with, if it begins with one of another kind. -/
theorem Stops.of_forall {test : Char → Bool} {row : List Char} (hne : row ≠ [])
    (hrow : ∀ c ∈ row, test c = false) : Stops test (row ++ rest) := by
  obtain ⟨c, row, rfl⟩ := List.exists_cons_of_ne_nil hne
  rw [List.cons_append, stops_cons]
  exact hrow c List.mem_cons_self

/-- The longest row of a kind is split off. -/
theorem exists_row (test : Char → Bool) (text : List Char) :
    ∃ row rest, text = row ++ rest ∧ (∀ c ∈ row, test c = true) ∧ Stops test rest :=
  ⟨text.takeWhile test, text.dropWhile test, List.takeWhile_append_dropWhile.symm,
    fun _ hc => List.mem_takeWhile_imp hc, stops_dropWhile test text⟩

end DataSchema.Text
