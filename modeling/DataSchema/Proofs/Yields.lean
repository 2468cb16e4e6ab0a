import DataSchema.Step

/-!
# Runs without errors

Most laws of compiling and validating speak of runs that meet no error. `Noted.Yields`,
`Step.Yields` and `Run.Ends` say that a computation meets none, and what it gives.

**Inversion.** Each way to build a computation has a law that takes such a run apart into runs of
its parts: `Noted.yields_bind` and `Step.yields_bind` for sequences, `Step.yields_attach` and
`Step.yields_merge` for parts. A part that is attached or merged shows its value, since nothing
hides it.
-/

namespace DataSchema

variable {σ α β : Type}

/-! ## Outcomes -/

theorem Outcome.value?_of_errors_eq_nil {o : Outcome α} (h : o.errors = []) :
    o.value? = o.stored := by
  simp [value?, hasError, h]

theorem Outcome.value?_eq_some {o : Outcome α} {a : α} :
    o.value? = some a ↔ o.errors = [] ∧ o.stored = some a := by
  cases h : o.errors <;> simp [value?, hasError, h]

@[simp] theorem Outcome.hasError_eq_false {o : Outcome α} : o.hasError = false ↔ o.errors = [] := by
  simp [hasError]

theorem Outcome.wrap_eq_nil {constraint : String} {property reason : Option String}
    {traces : List Diagnostic} : wrap constraint property reason traces = [] ↔ traces = [] := by
  cases traces <;> simp [wrap]

/-! ## Noted results -/

/-- The result comes without error. -/
def Noted.Yields (x : Noted α) (a : α) : Prop := x.errors = [] ∧ x.result = a

namespace Noted

/-- The form in which `pure_def` leaves a result without diagnostics. -/
@[simp] theorem yields_mk {a b : α} : (⟨a, [], []⟩ : Noted α).Yields b ↔ a = b := by simp [Yields]

theorem yields_pure {a b : α} : (pure a : Noted α).Yields b ↔ a = b := yields_mk

theorem yields_bind {x : Noted α} {f : α → Noted β} {b : β} :
    (x >>= f).Yields b ↔ ∃ a, x.Yields a ∧ (f a).Yields b := by
  simp only [Yields, bind_def, List.append_eq_nil_iff]
  constructor
  · rintro ⟨⟨hx, hf⟩, hb⟩
    exact ⟨x.result, ⟨hx, rfl⟩, hf, hb⟩
  · rintro ⟨a, ⟨hx, rfl⟩, hf, hb⟩
    exact ⟨⟨hx, hf⟩, hb⟩

@[simp] theorem not_yields_error {d : Diagnostic} {u : Unit} : ¬ (error d).Yields u := by
  simp [Yields, error]

@[simp] theorem not_yields_error_bind {d : Diagnostic} {f : Unit → Noted α} {a : α} :
    ¬ (error d >>= f).Yields a := by
  simp [yields_bind]

@[simp] theorem yields_warning {d : Diagnostic} {u : Unit} : (warning d).Yields u ↔ True := by
  simp [Yields, warning]

theorem yields_ite {c : Prop} [Decidable c] {x y : Noted α} {a : α} :
    (if c then x else y).Yields a ↔ if c then x.Yields a else y.Yields a := by
  split <;> rfl

end Noted

/-! ## Steps and runs -/

/-- The step meets no error, and gives a result and a state. -/
def Step.Yields (step : Step σ α) (s : σ) (a : α) (t : σ) : Prop := (step s).Yields (a, t)

/-- The run meets no error, and gives a stored value, if any, and a state. -/
def Run.Ends (run : Run σ α) (s : σ) (o : Option α) (t : σ) : Prop :=
  (run s).1.errors = [] ∧ (run s).1.stored = o ∧ (run s).2 = t

namespace Run

theorem ends_ofStep {step : Step σ (Option α)} {s t : σ} {o : Option α} :
    (ofStep step).Ends s o t ↔ step.Yields s o t := by
  simp [Ends, ofStep, Step.Yields, Noted.Yields, Prod.ext_iff]

theorem ends_ofNoted {x : Noted (Option α)} {s t : σ} {o : Option α} :
    (ofNoted x : Run σ α).Ends s o t ↔ x.Yields o ∧ s = t := by
  simp [Ends, ofNoted, Noted.toOutcome, Noted.Yields, and_assoc]

@[simp] theorem not_ends_failed {d : Diagnostic} {s t : σ} {o : Option α} :
    ¬ (failed d : Run σ α).Ends s o t := by
  simp [Ends, failed, Outcome.ofError]

/-- A run whose outcome has a value meets no error. -/
theorem ends_of_value? {run : Run σ α} {s : σ} {a : α} (h : (run s).1.value? = some a) :
    run.Ends s (some a) (run s).2 :=
  have h := Outcome.value?_eq_some.1 h
  ⟨h.1, h.2, rfl⟩

end Run

namespace Step

variable {s t : σ}

@[simp] theorem yields_pure {a b : α} : (pure a : Step σ α).Yields s b t ↔ a = b ∧ s = t := by
  change Noted.Yields (pure (a, s)) (b, t) ↔ _
  simp

theorem yields_bind {x : Step σ α} {f : α → Step σ β} {b : β} :
    (x >>= f).Yields s b t ↔ ∃ a u, x.Yields s a u ∧ (f a).Yields u b t := by
  change Noted.Yields (x s >>= fun p => f p.1 p.2) (b, t) ↔ _
  rw [Noted.yields_bind]
  exact ⟨fun ⟨(a, u), hx, hf⟩ => ⟨a, u, hx, hf⟩, fun ⟨a, u, hx, hf⟩ => ⟨(a, u), hx, hf⟩⟩

theorem yields_map {x : Step σ α} {f : α → β} {b : β} :
    (f <$> x).Yields s b t ↔ ∃ a, x.Yields s a t ∧ f a = b := by
  rw [← bind_pure_comp, yields_bind]
  simp

theorem yields_lift {x : Noted α} {a : α} :
    (monadLift x : Step σ α).Yields s a t ↔ x.Yields a ∧ s = t := by
  change Noted.Yields (x >>= fun a => pure (a, s)) (a, t) ↔ _
  rw [Noted.yields_bind]
  simp only [Noted.pure_def, Noted.yields_mk, Prod.mk.injEq]
  exact ⟨fun ⟨_, hx, rfl, hs⟩ => ⟨hx, hs⟩, fun ⟨hx, hs⟩ => ⟨a, hx, rfl, hs⟩⟩

@[simp] theorem not_yields_noteError {d : Diagnostic} {u : Unit} :
    ¬ (noteError d : Step σ Unit).Yields s u t := by
  simp [noteError, yields_lift]

@[simp] theorem not_yields_noteError_bind {d : Diagnostic} {f : Unit → Step σ α} {a : α} :
    ¬ (noteError d >>= f).Yields s a t := by
  simp [yields_bind]

@[simp] theorem yields_noteWarning {d : Diagnostic} {u : Unit} :
    (noteWarning d : Step σ Unit).Yields s u t ↔ s = t := by
  simp [noteWarning, yields_lift]

@[simp] theorem yields_get {a : σ} : (get : Step σ σ).Yields s a t ↔ s = a ∧ s = t := by
  change Noted.Yields (pure (s, s)) (a, t) ↔ _
  simp

@[simp] theorem yields_set {a : σ} {u : PUnit} : (set a : Step σ PUnit).Yields s u t ↔ a = t := by
  change Noted.Yields (pure (PUnit.unit, a)) (u, t) ↔ _
  simp

@[simp] theorem yields_modify {f : σ → σ} {u : PUnit} :
    (modify f : Step σ PUnit).Yields s u t ↔ f s = t := by
  change Noted.Yields (pure (PUnit.unit, f s)) (u, t) ↔ _
  simp

theorem yields_ite {c : Prop} [Decidable c] {x y : Step σ α} {a : α} :
    (if c then x else y).Yields s a t ↔ if c then x.Yields s a t else y.Yields s a t := by
  split <;> rfl

theorem yields_merge {part : Run σ α} {o : Option α} :
    (merge part).Yields s o t ↔ part.Ends s o t := by
  change (part s).1.errors = [] ∧ ((part s).1.value?, (part s).2) = (o, t) ↔ _
  refine and_congr_right fun h => ?_
  rw [Outcome.value?_of_errors_eq_nil h, Prod.mk.injEq]

theorem yields_attach {constraint : String} {part : Run σ α} {property : Option String}
    {o : Option α} : (attach constraint part property).Yields s o t ↔ part.Ends s o t := by
  change Outcome.wrap constraint property none (part s).1.errors = [] ∧
    ((part s).1.value?, (part s).2) = (o, t) ↔ _
  rw [Outcome.wrap_eq_nil]
  refine and_congr_right fun h => ?_
  rw [Outcome.value?_of_errors_eq_nil h, Prod.mk.injEq]

@[simp] theorem yields_quietly {part : Run σ α} {o : Outcome α} :
    (quietly part).Yields s o t ↔ part s = (o, t) := by
  simp [Yields, quietly, Noted.pure, Noted.Yields]

end Step

end DataSchema
