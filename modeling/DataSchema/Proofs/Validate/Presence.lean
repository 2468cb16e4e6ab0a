import DataSchema.Proofs.Validate.Accepted

/-!
# When an accepted validation gives a value

**Theorem (`isSome_iff_fills`).** A validation without errors gives a value exactly if there is data
or a default that fills its place (`Schema.Fills`), whatever the value is.

Scalars, arrays and objects give a value as soon as something is given. A combination that meets no
error falls back to its data. A reference hands over data that is there, so what it names gives a
value in turn; this is where the induction on the bound on the depth is needed.

So data that is there is never lost, and without a value the place was `Missing`
(`missing_of_ends_none`): the schema is not required, and has no default that is set.
-/

namespace DataSchema

/-- There is something to fill the place of a schema: data or a default, neither of them `null`
unless the schema is of kind `null`. -/
def Schema.Fills (s : Schema) (data : Option Json) : Prop :=
  if s.typeName = "null" then (data.or s.default).isSome = true
  else ((Json.present data).or (Json.present s.default)).isSome = true

namespace Validate

variable {ctx : Context} {s : Schema} {data : Option Json} {depth : Nat} {o : Option Json}

/-! ## What fills a place -/

theorem Given.fills {value : Json} (h : Given s data value) : s.Fills data := by
  unfold Schema.Fills
  unfold Given at h
  split
  · rcases Option.or_eq_some_iff.1 h with hdata | ⟨-, hdefault⟩
    · rw [Json.eq_some_of_present hdata]
      rfl
    · rw [Json.eq_some_of_present hdefault]
      cases data <;> rfl
  · rw [h]
    rfl

theorem fills_of_ne_null {value : Json} (h : value ≠ .null) : s.Fills (some value) := by
  have hpresent : Json.present (some value) = some value :=
    Json.present_of_ne_null fun heq => h (Option.some.inj heq)
  exact Given.fills (show Given s (some value) value by rw [Given, hpresent, Option.some_or])

theorem Missing.not_fills (h : Missing s data)
    (hnull : s.typeName = "null" → data = none ∧ s.default = none) : ¬ s.Fills data := by
  unfold Schema.Fills
  by_cases ht : s.typeName = "null"
  · obtain ⟨rfl, hdefault⟩ := hnull ht
    simp [ht, hdefault]
  · simp [ht, h.data, h.default]

/-- What is given is never `null`. -/
theorem Given.ne_null {value : Json} (h : Given s data value) : value ≠ .null := by
  rintro rfl
  rcases Option.or_eq_some_iff.1 h with hdata | ⟨-, hdefault⟩
  · exact Json.present_ne_null hdata
  · exact Json.present_ne_null hdefault

/-- Data that is there is what is given. -/
theorem Given.eq_of_ne_null {s : Schema} {data value : Json} (hdata : data ≠ .null)
    (h : Given s (some data) value) : data = value := by
  have hpresent : Json.present (some data) = some data :=
    Json.present_of_ne_null fun heq => hdata (Option.some.inj heq)
  rw [Given, hpresent, Option.some_or] at h
  exact Option.some.inj h

theorem not_missing_of_ne_null {s : Schema} {data : Json} (hdata : data ≠ .null) :
    ¬ Missing s (some data) := by
  intro h
  have hpresent := h.data
  rw [Json.present_of_ne_null fun heq => hdata (Option.some.inj heq)] at hpresent
  cases hpresent

/-! ## Combinations -/

theorem isSome_stored_joinGroups {strategy : CombineStrategy} {value : Json}
    {outcomes : List (Outcome Json)} (h : (joinGroups strategy value outcomes).errors = []) :
    (joinGroups strategy value outcomes).stored.isSome = true := by
  unfold joinGroups at *
  dsimp only at *
  split at h
  · simp [Outcome.addError] at h
  · rfl

theorem isSome_of_ends_grouped {c : CombineSchema} {value : Json}
    (h : Run.Ends (grouped ctx c value) depth o depth) : o.isSome = true := by
  obtain ⟨herrors, rfl, -⟩ := h
  exact isSome_stored_joinGroups herrors

/-! ## All kinds -/

/-- Nested validations give a value exactly if something fills the place. -/
def Context.Filling (ctx : Context) : Prop :=
  ∀ {s : Schema} {data o : Option Json} {depth : Nat},
    (ctx.nested s data).Ends depth o depth → (o.isSome = true ↔ s.Fills data)

theorem Accepted.isSome_iff_fills (hn : ctx.Filling) (h : Accepted ctx depth s data o) :
    o.isSome = true ↔ s.Fills data := by
  cases h with
  | missing missing null =>
    have hnot := missing.not_fills null
    simp [hnot]
  | boolean _ given => simp [given.fills]
  | null type given => simp [Schema.Fills, type, given]
  | number _ given => simp [given.fills]
  | integer _ given => simp [given.fills]
  | string _ given => simp [given.fills]
  | array _ given => simp [given.fills]
  | object _ given => simp [given.fills]
  | combine _ given run =>
    have hsome := isSome_of_ends_grouped run
    simp [given.fills, hsome]
  | ref _ given _ _ run =>
    -- What is handed over is not `null`, so it fills a schema of any kind.
    have hsome := (hn run).2 (fills_of_ne_null given.ne_null)
    simp [given.fills, hsome]

theorem Accepted.missing_of_none (hn : ctx.Filling) (h : Accepted ctx depth s data none) :
    Missing s data := by
  cases h with
  | missing missing => exact missing
  | combine _ _ run =>
    have hsome := isSome_of_ends_grouped run
    cases hsome
  | ref _ given _ _ run =>
    have hsome := (hn run).2 (fills_of_ne_null given.ne_null)
    cases hsome

end Validate

namespace Validator

open Validate

variable {options : ValidatorOptions} {top : Option TopSchema} {n depth t : Nat} {s : Schema}
  {data o : Option Json}

/-- **A validation without errors gives a value exactly if something fills the place.** -/
theorem isSome_iff_fills (h : ((builtin options).validateWithin top n s data).Ends depth o t) :
    o.isSome = true ↔ s.Fills data := by
  induction n generalizing s data o depth t with
  | zero => exact absurd h Run.not_ends_failed
  | succ n ih => exact (accepted_of_ends h).isSome_iff_fills fun hnested => ih hnested

theorem filling_context (options : ValidatorOptions) (top : Option TopSchema) (n : Nat) :
    ((builtin options).context top n).Filling :=
  fun h => isSome_iff_fills h

theorem missing_of_ends_none
    (h : ((builtin options).validateWithin top n s data).Ends depth none t) : Missing s data := by
  cases n with
  | zero => exact absurd h Run.not_ends_failed
  | succ n => exact (accepted_of_ends h).missing_of_none (filling_context options top n)

theorem exists_of_fills (hs : s.Fills data)
    (h : ((builtin options).validateWithin top n s data).Ends depth o t) :
    ∃ value, o = some value := by
  have hsome := (isSome_iff_fills h).2 hs
  exact Option.isSome_iff_exists.1 hsome

/-- A required schema gives a value. -/
theorem exists_of_required (hs : s.required = true)
    (h : ((builtin options).validateWithin top n s data).Ends depth o t) :
    ∃ value, o = some value := by
  cases o with
  | none =>
    have hmissing := missing_of_ends_none h
    rw [hmissing.required] at hs
    cases hs
  | some value => exact ⟨value, rfl⟩

end Validator

end DataSchema
