import DataSchema.Proofs.Dict
import DataSchema.Proofs.Validate.Conforms
import DataSchema.Validate.Container

/-!
# What validators check

The checks of validators in the terms of `Conforms`: a number or a text is without fault exactly if
it keeps to the constraints (`numberFault?_eq_none`, `textFault?_eq_none`), and a key is looked up
among the declared properties and the patterns as its class says.

Floats and integers share their checks. `Scale.Measures` says that what is compared is what the
numbers measure.
-/

namespace DataSchema.Validate

/-! ## Numbers -/

section Numbers

variable {α : Type} {scale : Scale α} {measure : α → Int}

/-- A scale compares numbers by what they measure. -/
structure Scale.Measures (scale : Scale α) (measure : α → Int) : Prop where
  lt : ∀ m n, scale.lt m n = true ↔ measure m < measure n
  le : ∀ m n, scale.le m n = true ↔ measure m ≤ measure n
  same : ∀ m n, scale.same m n = true ↔ measure m = measure n

theorem measures_floatScale : floatScale.Measures Binary64.signedUnits where
  lt m n := by simp [floatScale, Binary64.lt]
  le m n := by simp [floatScale, Binary64.le]
  same m n := by simp [floatScale, Binary64.sameValue]

theorem measures_integerScale : integerScale.Measures Int64.toInt where
  lt m n := by simp [integerScale, Int64.lt_iff_toInt_lt]
  le m n := by simp [integerScale, Int64.le_iff_toInt_le]
  same m n := by simp [integerScale, Int64.toInt_inj]

theorem boundFault?_eq_none {name : String} {broken : α → α → Bool} {bound : Option α} {n : α} :
    boundFault? scale name broken bound n = none ↔ ∀ b ∈ bound, ¬ broken b n = true := by
  cases bound with
  | none => simp [boundFault?]
  | some b => by_cases hb : broken b n = true <;> simp [boundFault?, hb]

theorem memberFault?_eq_none (h : scale.Measures measure) {members : Option (List α)} {n : α} :
    memberFault? scale members n = none ↔
      ∀ values ∈ members, values ≠ [] → ∃ m ∈ values, measure m = measure n := by
  cases members with
  | none => simp [memberFault?]
  | some values =>
    cases values with
    | nil => simp [memberFault?]
    | cons m rest =>
      have hany : (m :: rest).any (scale.same · n) = true ↔
          ∃ k ∈ m :: rest, measure k = measure n := by
        simp only [List.any_eq_true, h.same]
      by_cases hm : (m :: rest).any (scale.same · n) = true
      · simpa [memberFault?, hm] using hany.1 hm
      · have hnone := mt hany.2 hm
        simpa [memberFault?, hm] using hnone

/-- A number without a fault is one that keeps to its bounds. -/
theorem numberFault?_eq_none (h : scale.Measures measure) {b : Bounds α} {n : α} :
    numberFault? scale b n = none ↔ b.Hold measure n := by
  simp only [numberFault?, Option.or_eq_none_iff, boundFault?_eq_none, memberFault?_eq_none h, h.lt,
    h.le, not_lt, not_le]
  constructor
  · rintro ⟨hmin, hmax, hemin, hemax, hmembers⟩
    exact ⟨hmin, hmax, hemin, hemax, hmembers⟩
  · intro hb
    exact ⟨hb.minimum, hb.maximum, hb.exclusiveMinimum, hb.exclusiveMaximum, hb.members⟩

end Numbers

/-! ## Texts -/

section Texts

variable {c : StringSchema} {text : String}

theorem minLengthFault?_eq_none :
    minLengthFault? c text = none ↔ ∀ least ∈ c.minLength, least.toNat ≤ text.length := by
  unfold minLengthFault?
  cases c.minLength <;> simp

theorem maxLengthFault?_eq_none :
    maxLengthFault? c text = none ↔ ∀ most ∈ c.maxLength, text.length ≤ most.toNat := by
  unfold maxLengthFault?
  cases c.maxLength <;> simp

theorem patternFault?_eq_none :
    patternFault? c text = none ↔ ∀ p ∈ c.pattern, p.isMatch text = true := by
  unfold patternFault?
  cases c.pattern <;> simp

theorem formatFault?_eq_none : formatFault? c text = none ↔
    ∀ formats ∈ c.format, formats ≠ [] → ∃ f ∈ formats, f.accepts text = true := by
  unfold formatFault?
  split
  · next hformat => simp [hformat]
  · next hformat => simp [hformat]
  · next formats hne hformat =>
    have hfilled : formats ≠ [] := hne
    simp [hformat, hfilled]

theorem textMemberFault?_eq_none : textMemberFault? c text = none ↔
    ∀ values ∈ c.members, values ≠ [] → text ∈ values := by
  unfold textMemberFault?
  split
  · next hmembers => simp [hmembers]
  · next hmembers => simp [hmembers]
  · next values hne hmembers =>
    have hfilled : values ≠ [] := hne
    simp [hmembers, hfilled]

/-- A text without a fault is one that keeps to its constraints. -/
theorem textFault?_eq_none : textFault? c text = none ↔ c.Holds text := by
  simp only [textFault?, Option.or_eq_none_iff, minLengthFault?_eq_none, maxLengthFault?_eq_none,
    patternFault?_eq_none, formatFault?_eq_none, textMemberFault?_eq_none]
  constructor
  · rintro ⟨hmin, hmax, hpattern, hformat, hmembers⟩
    exact ⟨hmin, hmax, hpattern, hformat, hmembers⟩
  · intro hc
    exact ⟨hc.minLength, hc.maxLength, hc.pattern, hc.format, hc.members⟩

end Texts

/-! ## Keys -/

section Keys

variable {o : ObjectSchema} {name : String} {s : Schema}

theorem isDeclared_eq_false : isDeclared o name = false ↔ o.Undeclared name := by
  rw [Bool.eq_false_iff, isDeclared, Ne, Dict.contains_iff, not_exists]
  constructor
  · rintro h ⟨_, schema⟩ hmem rfl
    exact h schema hmem
  · intro h schema hmem
    exact h _ hmem rfl

theorem patternProperty?_eq_some : patternProperty? o name = some s ↔ o.FirstMatch name s := by
  rw [patternProperty?, Option.map_eq_some_iff, ObjectSchema.FirstMatch]
  constructor
  · rintro ⟨⟨p, s⟩, hfind, rfl⟩
    obtain ⟨hmatch, before, after, heq, hbefore⟩ := List.find?_eq_some_iff_append.1 hfind
    exact ⟨before, p, after, heq, hmatch, by simpa using hbefore⟩
  · rintro ⟨before, p, after, heq, hmatch, hbefore⟩
    have hfind : (o.regexNameProperties.getD []).find? (fun p => p.1.isMatch name) =
        some (p, s) :=
      List.find?_eq_some_iff_append.2 ⟨hmatch, before, after, heq, by simpa using hbefore⟩
    exact ⟨(p, s), hfind, rfl⟩

theorem patternProperty?_eq_none : patternProperty? o name = none ↔ o.Unmatched name := by
  rw [patternProperty?, Option.map_eq_none_iff, List.find?_eq_none, ObjectSchema.Unmatched]
  simp only [Bool.not_eq_true]

end Keys

end DataSchema.Validate
