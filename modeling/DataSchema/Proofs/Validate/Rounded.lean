import DataSchema.Compiler
import DataSchema.Proofs.Coerce
import DataSchema.Proofs.Compile.Agree
import DataSchema.Proofs.Validate.Constraint
import DataSchema.Proofs.Validate.Frame

/-!
# Rounded bounds

The bounds of an integer may be written as any numbers, and compiling rounds them inward: lower bounds
up and upper bounds down, but an exclusive bound the other way, since an integer above `2.5` is above
`2`. The validator compares with the rounded bounds.

**Theorem (`bounds_as_written`).** If the raw schema compiles, an integer is reported to break a bound
exactly if it breaks one as it is written (`KeepsWritten`).

A bound that is written as an integer is read exactly and another one as a binary64 number, whose
rounding is exact, so the compiled bounds are the written ones rounded in `ℚ` (`yields_roundedBound`).
An integer cannot tell a rational number from its floor or its ceiling, and that each of the four
bounds is rounded the right way for its comparison is all that is left to see.
-/

namespace DataSchema

/-! ## Bounds as they are written -/

/-- The rational number that a bound of an integer is written as: an integer if it is read as one,
else a binary64 number. -/
def writtenBound (raw : RawSchema) (name : String) : Option ℚ :=
  let exact := Coerce.int64 none (raw.get? name)
  if exact.hasError then (Coerce.number none (raw.get? name)).value.map Binary64.toRat
  else exact.value.map fun n => (n.toInt : ℚ)

/-- An integer keeps to the bounds that are written in a raw schema. -/
structure KeepsWritten (raw : RawSchema) (n : Int) : Prop where
  minimum : ∀ least ∈ writtenBound raw "minimum", least ≤ n
  maximum : ∀ most ∈ writtenBound raw "maximum", n ≤ most
  exclusiveMinimum : ∀ least ∈ writtenBound raw "exclusiveMinimum", least < n
  exclusiveMaximum : ∀ most ∈ writtenBound raw "exclusiveMaximum", n < most

/-! ## Compiling bounds -/

namespace Compile

variable {raw : RawSchema} {name : String} {round : Binary64 → Binary64} {f : ℚ → Int}
  {bound : Option Int64}

theorem toRat_of_toInt64? {x : Binary64} {n : Int64} (h : x.toInt64? = some n) :
    x.toRat = n.toInt := by
  obtain ⟨k, hk, hn⟩ := Option.bind_eq_some_iff.1 h
  rw [int64OfInt?_eq_some.1 hn]
  exact Binary64.toInt?_eq_some.1 hk

/-- The compiled bound is the written one, rounded. -/
theorem yields_roundedBound (hround : ∀ x, (round x).toRat = f x.toRat) (hint : ∀ n : Int, f n = n)
    (h : (roundedBound raw name round).Yields bound) :
    bound.map Int64.toInt = (writtenBound raw name).map f := by
  unfold roundedBound at h
  unfold writtenBound
  dsimp only at h ⊢
  cases hexact : (Coerce.int64 none (raw.get? name)).hasError with
  | false =>
    rw [hexact] at h
    obtain rfl := Noted.yields_pure.1 h
    simp [Function.comp_def, hint]
  | true =>
    rw [hexact] at h
    obtain ⟨written, hwritten, h⟩ := Noted.yields_bind.1 h
    have hread : (Coerce.number none (raw.get? name)).value = written := hwritten.2
    rw [if_pos rfl, hread]
    cases written with
    | none =>
      obtain rfl := Noted.yields_pure.1 h
      rfl
    | some x =>
      dsimp only at h
      cases hbound : (round x).toInt64? with
      | none => simp [hbound] at h
      | some b =>
        have hvalue : some b = bound := by
          rw [hbound] at h
          dsimp only at h
          split at h
          · obtain ⟨-, -, h⟩ := Noted.yields_bind.1 h
            exact Noted.yields_pure.1 h
          · exact Noted.yields_pure.1 h
        have hrounded : (f x.toRat : ℚ) = b.toInt := by
          rw [← hround, toRat_of_toInt64? hbound]
        rw [← hvalue, Option.map_some, Option.map_some, Option.map_some, Int.cast_inj.1 hrounded]

/-- The bounds of a compiled integer are the written ones, rounded inward. -/
structure RoundedInward (raw : RawSchema) (b : Bounds Int64) : Prop where
  minimum : b.minimum.map Int64.toInt = (writtenBound raw "minimum").map Int.ceil
  maximum : b.maximum.map Int64.toInt = (writtenBound raw "maximum").map Int.floor
  exclusiveMinimum :
    b.exclusiveMinimum.map Int64.toInt = (writtenBound raw "exclusiveMinimum").map Int.floor
  exclusiveMaximum :
    b.exclusiveMaximum.map Int64.toInt = (writtenBound raw "exclusiveMaximum").map Int.ceil

theorem yields_integer {s : Schema} (h : (integer raw).Yields (some s)) :
    ∃ b, s.kind = .integer b ∧ RoundedInward raw b := by
  obtain ⟨required, -, h⟩ := Noted.yields_bind.1 h
  obtain ⟨default, -, h⟩ := Noted.yields_bind.1 h
  obtain ⟨minimum, hmin, h⟩ := Noted.yields_bind.1 h
  obtain ⟨maximum, hmax, h⟩ := Noted.yields_bind.1 h
  obtain ⟨exclusiveMinimum, hemin, h⟩ := Noted.yields_bind.1 h
  obtain ⟨exclusiveMaximum, hemax, h⟩ := Noted.yields_bind.1 h
  obtain ⟨members, -, h⟩ := Noted.yields_bind.1 h
  obtain rfl := Option.some.inj (Noted.yields_pure.1 h)
  exact ⟨_, rfl,
    { minimum := yields_roundedBound Binary64.toRat_ceil Int.ceil_intCast hmin
      maximum := yields_roundedBound Binary64.toRat_floor Int.floor_intCast hmax
      exclusiveMinimum := yields_roundedBound Binary64.toRat_floor Int.floor_intCast hemin
      exclusiveMaximum := yields_roundedBound Binary64.toRat_ceil Int.ceil_intCast hemax }⟩

/-- Comparing with a rounded bound is comparing with the written one, if it is for each number. -/
theorem forall_bound_iff {written : Option ℚ} {P : Int → Prop} {Q : ℚ → Prop}
    (hbound : bound.map Int64.toInt = written.map f) (hcompare : ∀ q, P (f q) ↔ Q q) :
    (∀ b ∈ bound, P b.toInt) ↔ ∀ q ∈ written, Q q := by
  have hrounded : (∀ k ∈ written.map f, P k) ↔ ∀ q ∈ written, Q q := by
    simp only [Option.mem_map, forall_exists_index, and_imp, forall_apply_eq_imp_iff₂, hcompare]
  rw [← hrounded, ← hbound]
  simp only [Option.mem_map, forall_exists_index, and_imp, forall_apply_eq_imp_iff₂]

/-- A bound may be rounded inward before an integer is compared with it. -/
theorem RoundedInward.keepsWritten_iff {b : Bounds Int64} (h : RoundedInward raw b) {n : Int} :
    KeepsWritten raw n ↔
      (∀ least ∈ b.minimum, least.toInt ≤ n) ∧ (∀ most ∈ b.maximum, n ≤ most.toInt) ∧
      (∀ least ∈ b.exclusiveMinimum, least.toInt < n) ∧
      ∀ most ∈ b.exclusiveMaximum, n < most.toInt := by
  rw [forall_bound_iff (P := fun k => k ≤ n) h.minimum fun q => Int.ceil_le,
    forall_bound_iff (P := fun k => n ≤ k) h.maximum fun q => Int.le_floor,
    forall_bound_iff (P := fun k => k < n) h.exclusiveMinimum fun q => Int.floor_lt,
    forall_bound_iff (P := fun k => n < k) h.exclusiveMaximum fun q => Int.lt_ceil]
  constructor
  · intro hkeeps
    exact ⟨hkeeps.minimum, hkeeps.maximum, hkeeps.exclusiveMinimum, hkeeps.exclusiveMaximum⟩
  · rintro ⟨hmin, hmax, hemin, hemax⟩
    exact ⟨hmin, hmax, hemin, hemax⟩

end Compile

/-! ## Checking bounds -/

namespace Validate

/-- The constraints that are bounds. -/
def boundNames : List String := ["minimum", "maximum", "exclusiveMinimum", "exclusiveMaximum"]

section Faults

variable {α : Type} {scale : Scale α} {name : String} {broken : α → α → Bool} {bound : Option α}
  {n : α} {d : Diagnostic}

theorem constraint_of_boundFault? (h : boundFault? scale name broken bound n = some d) :
    d.constraint = name := by
  unfold boundFault? at h
  split at h
  · split at h
    · obtain rfl := Option.some.inj h
      rfl
    · cases h
  · cases h

theorem constraint_of_memberFault? {members : Option (List α)}
    (h : memberFault? scale members n = some d) : d.constraint = "enum" := by
  unfold memberFault? at h
  split at h
  · cases h
  · cases h
  · split at h
    · cases h
    · obtain rfl := Option.some.inj h
      rfl

/-- A bound that is checked first is kept if no bound is reported as broken. -/
theorem boundFault?_or (hname : name ∈ boundNames) {rest : Option Diagnostic} :
    (∀ d ∈ (boundFault? scale name broken bound n).or rest, d.constraint ∉ boundNames) ↔
      (∀ b ∈ bound, ¬ broken b n = true) ∧ ∀ d ∈ rest, d.constraint ∉ boundNames := by
  have hkept : (∀ b ∈ bound, ¬ broken b n = true) ↔ boundFault? scale name broken bound n = none :=
    boundFault?_eq_none.symm
  rw [hkept]
  cases hfault : boundFault? scale name broken bound n with
  | none => simp
  | some d =>
    have hconstraint := constraint_of_boundFault? hfault
    simp [hconstraint, hname]

/-- No bound is reported as broken exactly if all are kept. -/
theorem numberFault?_not_bound {measure : α → Int} (h : scale.Measures measure) {b : Bounds α} :
    (∀ d ∈ numberFault? scale b n, d.constraint ∉ boundNames) ↔
      (∀ least ∈ b.minimum, measure least ≤ measure n) ∧
      (∀ most ∈ b.maximum, measure n ≤ measure most) ∧
      (∀ least ∈ b.exclusiveMinimum, measure least < measure n) ∧
      ∀ most ∈ b.exclusiveMaximum, measure n < measure most := by
  have hmembers : ∀ d ∈ memberFault? scale b.members n, d.constraint ∉ boundNames := by
    intro d hd
    rw [constraint_of_memberFault? hd]
    decide
  rw [numberFault?, boundFault?_or (by decide), boundFault?_or (by decide),
    boundFault?_or (by decide), boundFault?_or (by decide), and_iff_left hmembers]
  simp only [h.lt, h.le, not_lt, not_le]

end Faults

/-- What is reported of an integer as data is the first constraint that it breaks. -/
theorem errors_integer {s : Schema} {b : Bounds Int64} (hkind : s.kind = .integer b) (n : Int64) :
    (integer s (some (.ofInt64 n))).errors = (numberFault? integerScale b n).toList := by
  have hgiven : given s (some (.ofInt64 n)) = pure (some (.ofInt64 n)) := rfl
  simp only [integer, hkind, within, hgiven, Noted.pure_def, Noted.bind_def, Coerce.int64_ofInt64,
    Coerced.of, Coerced.hasError, List.isEmpty_nil, Bool.not_true, List.nil_append]
  cases numberFault? integerScale b n <;> rfl

end Validate

namespace Validator

open Compile Validate

/-- **Rounding inward keeps what bounds mean.** No bound is reported as broken by an integer exactly
if it keeps to all bounds as they are written. -/
theorem bounds_as_written (options : CompilerOptions) (limits : ValidatorOptions) {depth : Nat}
    {raw : RawSchema} {r : Registry} {s : Schema} (htype : Compiler.typeName? raw = some "integer")
    (hcompiled : ((Compiler.builtin options).compileWithin depth raw r).1.value? = some s)
    (top : Option TopSchema) (height : Nat) (n : Int64) (followed : Nat) :
    (∀ d ∈ ((builtin limits).validateWithin top (height + 1) s (some (.ofInt64 n))
        followed).1.errors, d.constraint ∉ boundNames) ↔ KeepsWritten raw n.toInt := by
  have hends := Run.ends_of_value? hcompiled
  cases depth with
  | zero => exact absurd hends Run.not_ends_failed
  | succ depth =>
    rw [Compiler.compileWithin_succ, Compiler.compileIn, htype] at hends
    obtain ⟨b, hkind, hrounded⟩ := yields_integer (Run.ends_ofNoted.1 hends).1
    have hvalidator : (builtin limits).types.get? s.typeName =
        some (TypeValidator.scalar Validate.integer) := by
      rw [Schema.typeName, hkind]
      rfl
    have herrors : ((builtin limits).validateWithin top (height + 1) s (some (.ofInt64 n))
        followed).1.errors = (numberFault? integerScale b n).toList := by
      rw [validateWithin_succ hvalidator]
      exact errors_integer hkind n
    rw [herrors, hrounded.keepsWritten_iff, ← numberFault?_not_bound measures_integerScale]
    exact forall_congr' fun d => imp_congr_left Option.mem_toList

/-- An integer from `-3.5` to below `7.25`, with a bound written as a text. -/
def fractions : RawSchema :=
  [("exclusiveMaximum", .str " 7.25"), ("minimum", .str "-35e-1"), ("type", .str "integer")]

theorem bounds_as_written_fractions :
    ∃ s, ((Compiler.builtin {}).compileWithin 1 fractions .empty).1.value? = some s ∧
      writtenBound fractions "minimum" = some (-7 / 2) ∧
      ((∀ d ∈ ((builtin {}).validateWithin none 1 s (some (.ofInt64 (-4))) 0).1.errors,
        d.constraint ∉ boundNames) ↔ KeepsWritten fractions (-4)) := by
  have hcompiled :
      ((Compiler.builtin {}).compileWithin 1 fractions .empty).1.value?.isSome = true := by
    decide +kernel
  obtain ⟨s, hs⟩ := Option.isSome_iff_exists.1 hcompiled
  exact ⟨s, hs, by decide +kernel, bounds_as_written {} {} rfl hs none 0 (-4) 0⟩

end Validator

end DataSchema
