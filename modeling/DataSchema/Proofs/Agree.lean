import DataSchema.Proofs.Yields

/-!
# Computations that agree

Two runs of a compiler are compared step by step: they are run from states that are related, and
have to give the same and leave states that are related again.

**What is compared** (`View`). Either the whole outcome, with every diagnostic, or no more than the
value and whether there are errors. The second is what is left when one run has a reference where
the other has the definition, since a reference wraps the diagnostics of its definition.

**Laws.** `Step.Agree.bind`, `Step.Agree.attach` and `Step.Agree.merge` compare computations along
the way they are built. The relation of the states is a parameter, and an invariant of all laws.
-/

namespace DataSchema

variable {σ τ α β : Type} {view : View} {R : σ → τ → Prop}

/-- What two computations that agree have in common. -/
inductive View where
  /-- The outcome with all diagnostics. -/
  | whole
  /-- The value, and whether there are errors. -/
  | value

namespace View

variable {view : View} {xs ys xs' ys' : List Diagnostic}

/-- Errors that cannot be told apart. -/
def Errors : View → List Diagnostic → List Diagnostic → Prop
  | whole, xs, ys => xs = ys
  | value, xs, ys => xs = [] ↔ ys = []

/-- Warnings that cannot be told apart. -/
def Warnings : View → List Diagnostic → List Diagnostic → Prop
  | whole, xs, ys => xs = ys
  | value, _, _ => True

theorem Errors.refl (view : View) (xs : List Diagnostic) : view.Errors xs xs := by
  cases view with
  | whole => exact rfl
  | value => exact Iff.rfl

theorem Warnings.refl (view : View) (xs : List Diagnostic) : view.Warnings xs xs := by
  cases view with
  | whole => exact rfl
  | value => trivial

theorem Errors.eq_nil_iff (h : view.Errors xs ys) : xs = [] ↔ ys = [] := by
  cases view with
  | whole => exact (show xs = ys from h) ▸ Iff.rfl
  | value => exact h

theorem Errors.append (h : view.Errors xs ys) (h' : view.Errors xs' ys') :
    view.Errors (xs ++ xs') (ys ++ ys') := by
  cases view with
  | whole =>
    obtain rfl : xs = ys := h
    obtain rfl : xs' = ys' := h'
    exact rfl
  | value =>
    show xs ++ xs' = [] ↔ ys ++ ys' = []
    rw [List.append_eq_nil_iff, List.append_eq_nil_iff]
    exact and_congr h h'

theorem Warnings.append (h : view.Warnings xs ys) (h' : view.Warnings xs' ys') :
    view.Warnings (xs ++ xs') (ys ++ ys') := by
  cases view with
  | whole =>
    obtain rfl : xs = ys := h
    obtain rfl : xs' = ys' := h'
    exact rfl
  | value => trivial

theorem Errors.wrap (h : view.Errors xs ys) (constraint : String) (property : Option String) :
    view.Errors (Outcome.wrap constraint property none xs)
      (Outcome.wrap constraint property none ys) := by
  cases view with
  | whole => exact congrArg _ h
  | value =>
    show Outcome.wrap constraint property none xs = [] ↔
      Outcome.wrap constraint property none ys = []
    rw [Outcome.wrap_eq_nil, Outcome.wrap_eq_nil]
    exact h

theorem Warnings.wrap (h : view.Warnings xs ys) (constraint : String) (property : Option String) :
    view.Warnings (Outcome.wrap constraint property none xs)
      (Outcome.wrap constraint property none ys) := by
  cases view with
  | whole => exact congrArg _ h
  | value => trivial

end View

/-! ## Outcomes and noted results -/

/-- Outcomes that cannot be told apart. -/
structure Outcome.Agree (view : View) (o o' : Outcome α) : Prop where
  value : o.value? = o'.value?
  errors : view.Errors o.errors o'.errors
  warnings : view.Warnings o.warnings o'.warnings
  /-- A stored value that is hidden belongs to the whole outcome only. -/
  stored : view = .whole → o.stored = o'.stored

theorem Outcome.Agree.refl (view : View) (o : Outcome α) : o.Agree view o where
  value := rfl
  errors := .refl view _
  warnings := .refl view _
  stored _ := rfl

theorem Outcome.Agree.eq {o o' : Outcome α} (h : o.Agree .whole o') : o = o' := by
  obtain ⟨-, errors, warnings, stored⟩ := h
  obtain ⟨s, es, ws⟩ := o
  obtain ⟨s', es', ws'⟩ := o'
  obtain rfl : s = s' := stored rfl
  obtain rfl : es = es' := errors
  obtain rfl : ws = ws' := warnings
  rfl

/-- Noted results that agree up to a relation of the results. -/
structure Noted.Agree (view : View) (S : α → β → Prop) (x : Noted α) (y : Noted β) : Prop where
  result : S x.result y.result
  errors : view.Errors x.errors y.errors
  warnings : view.Warnings x.warnings y.warnings

namespace Noted

variable {α' β' : Type} {S : α → β → Prop} {S' : α' → β' → Prop}

theorem agree_pure {a : α} {b : β} (h : S a b) : (pure a : Noted α).Agree view S (pure b) where
  result := h
  errors := .refl view _
  warnings := .refl view _

theorem Agree.bind {x : Noted α} {y : Noted β} (h : x.Agree view S y) {f : α → Noted α'}
    {g : β → Noted β'} (hf : ∀ a b, S a b → (f a).Agree view S' (g b)) :
    (x >>= f).Agree view S' (y >>= g) := by
  have hfg := hf _ _ h.result
  exact ⟨hfg.result, h.errors.append hfg.errors, h.warnings.append hfg.warnings⟩

/-- A result that is wanted agrees as an outcome. -/
theorem Agree.outcome {x : Noted (Option α × σ)} {y : Noted (Option α × τ)}
    (h : x.Agree view (fun a b => a.1 = b.1 ∧ R a.2 b.2) y) :
    Outcome.Agree view ⟨x.result.1, x.errors, x.warnings⟩ ⟨y.result.1, y.errors, y.warnings⟩ := by
  obtain ⟨⟨hresult, -⟩, herrors, hwarnings⟩ := h
  have hshown : x.errors.isEmpty = y.errors.isEmpty := by
    rw [Bool.eq_iff_iff, List.isEmpty_iff, List.isEmpty_iff]
    exact herrors.eq_nil_iff
  refine ⟨?_, herrors, hwarnings, fun _ => hresult⟩
  show (if !x.errors.isEmpty then none else x.result.1) =
    if !y.errors.isEmpty then none else y.result.1
  rw [hresult, hshown]

end Noted

/-! ## Runs and steps -/

/-- From related states the runs give outcomes that agree, and leave related states. -/
def Run.Agree (view : View) (R : σ → τ → Prop) (run : Run σ α) (run' : Run τ α) : Prop :=
  ∀ s t, R s t → (run s).1.Agree view (run' t).1 ∧ R (run s).2 (run' t).2

/-- From related states the steps give the same, note what agrees, and leave related states. -/
def Step.Agree (view : View) (R : σ → τ → Prop) (x : Step σ α) (y : Step τ α) : Prop :=
  ∀ s t, R s t → (x s).Agree view (fun a b => a.1 = b.1 ∧ R a.2 b.2) (y t)

namespace Step

theorem bind_apply (x : Step σ α) (f : α → Step σ β) (s : σ) :
    (x >>= f) s = x s >>= fun a => f a.1 a.2 := rfl

theorem get_bind_apply (f : σ → Step σ α) (s : σ) : (get >>= f) s = f s s := rfl

/-- A step can give this from some state. -/
def Gives (x : Step σ α) (a : α) : Prop := ∃ s, (x s).result.1 = a

theorem gives_bind {x : Step σ α} {f : α → Step σ β} {b : β} (h : (x >>= f).Gives b) :
    ∃ a, x.Gives a ∧ (f a).Gives b := by
  obtain ⟨s, h⟩ := h
  exact ⟨(x s).result.1, ⟨s, rfl⟩, (x s).result.2, h⟩

theorem gives_lift {x : Noted α} {a : α} (h : (monadLift x : Step σ α).Gives a) : a = x.result := by
  obtain ⟨s, rfl⟩ := h
  rfl

theorem agree_pure (a : α) : Agree view R (pure a) (pure a) :=
  fun _ _ h => Noted.agree_pure ⟨rfl, h⟩

/-- What follows a step has to agree for what the step can give. -/
theorem Agree.bind_gives {x : Step σ α} {y : Step τ α} (h : Agree view R x y) {f : α → Step σ β}
    {g : α → Step τ β} (hf : ∀ a, x.Gives a → Agree view R (f a) (g a)) :
    Agree view R (x >>= f) (y >>= g) := by
  intro s t hst
  obtain ⟨⟨hresult, hR⟩, herrors, hwarnings⟩ := h s t hst
  have hxy : (x s).Agree view (fun a b => x.Gives a.1 ∧ a.1 = b.1 ∧ R a.2 b.2) (y t) :=
    ⟨⟨⟨s, rfl⟩, hresult, hR⟩, herrors, hwarnings⟩
  rw [bind_apply, bind_apply]
  refine hxy.bind fun a b hab => ?_
  obtain ⟨a, u⟩ := a
  obtain ⟨b, v⟩ := b
  obtain ⟨ha, rfl, huv⟩ : x.Gives a ∧ a = b ∧ R u v := hab
  exact hf a ha u v huv

theorem Agree.bind {x : Step σ α} {y : Step τ α} (h : Agree view R x y) {f : α → Step σ β}
    {g : α → Step τ β} (hf : ∀ a, Agree view R (f a) (g a)) :
    Agree view R (x >>= f) (y >>= g) :=
  h.bind_gives fun a _ => hf a

theorem agree_lift (x : Noted α) :
    Agree view R (monadLift x : Step σ α) (monadLift x : Step τ α) := by
  intro s t hst
  have hx : x.Agree view Eq x := ⟨rfl, .refl view _, .refl view _⟩
  show Noted.Agree view _ (x >>= fun a => pure (a, s)) (x >>= fun b => pure (b, t))
  exact hx.bind fun a b hab => Noted.agree_pure ⟨hab, hst⟩

theorem agree_noteError (d : Diagnostic) : Agree view R (noteError d) (noteError d) :=
  agree_lift _

/-- States may be looked at where what is done with them agrees. -/
theorem agree_get_bind {f : σ → Step σ α} {g : τ → Step τ α}
    (h : ∀ s t, R s t → (f s s).Agree view (fun a b => a.1 = b.1 ∧ R a.2 b.2) (g t t)) :
    Agree view R (get >>= f) (get >>= g) := by
  intro s t hst
  have hget : (pure (s, s) : Noted (σ × σ)).Agree view (fun a b => a = (s, s) ∧ b = (t, t))
      (pure (t, t)) := Noted.agree_pure ⟨rfl, rfl⟩
  show Noted.Agree view _ (pure (s, s) >>= fun a => f a.1 a.2) (pure (t, t) >>= fun b => g b.1 b.2)
  refine hget.bind fun a b hab => ?_
  obtain ⟨rfl, rfl⟩ := hab
  exact h s t hst

theorem agree_attach {run : Run σ α} {run' : Run τ α} (h : run.Agree view R run')
    (constraint : String) (property : Option String) :
    Agree view R (attach constraint run property) (attach constraint run' property) := by
  intro s t hst
  obtain ⟨ho, hR⟩ := h s t hst
  exact ⟨⟨ho.value, hR⟩, ho.errors.wrap constraint property, ho.warnings.wrap constraint property⟩

theorem agree_modify {f : σ → σ} {g : τ → τ} (h : ∀ s t, R s t → R (f s) (g t)) :
    Agree view R (modify f) (modify g) :=
  fun s t hst => Noted.agree_pure ⟨rfl, h s t hst⟩

theorem agree_merge {run : Run σ α} {run' : Run τ α} (h : run.Agree view R run') :
    Agree view R (merge run) (merge run') := by
  intro s t hst
  obtain ⟨ho, hR⟩ := h s t hst
  exact ⟨⟨ho.value, hR⟩, ho.errors, ho.warnings⟩

/-- States may be brought into another relation for a part, and back. -/
theorem agree_between {R' : σ → τ → Prop} {run : Run σ α} {run' : Run τ α} {f f' : σ → σ}
    {g g' : τ → τ} (hf : ∀ s t, R s t → R' (f s) (g t)) (h : run.Agree view R' run')
    (hf' : ∀ s t, R' s t → R (f' s) (g' t)) (k : Option α → β) :
    Agree view R
      (do
        modify f
        let a ← merge run
        modify f'
        return k a)
      (do
        modify g
        let a ← merge run'
        modify g'
        return k a) := by
  intro s t hst
  have hpart := agree_merge h (f s) (g t) (hf s t hst)
  have hlast : ((merge run (f s)) >>= fun a => pure (k a.1, f' a.2)).Agree view
      (fun a b => a.1 = b.1 ∧ R a.2 b.2) ((merge run' (g t)) >>= fun b => pure (k b.1, g' b.2)) :=
    hpart.bind fun a b hab => Noted.agree_pure ⟨congrArg k hab.1, hf' _ _ hab.2⟩
  exact hlast

/-- Values that are hidden by the errors of a first step are hidden on both sides. -/
theorem value?_bind_eq {S : α × σ → α × τ → Prop} {x : Step σ α} {y : Step τ α} {s : σ} {t : τ}
    (h : (x s).Agree view S (y t)) {f : α → Step σ (Option β)} {g : α → Step τ (Option β)}
    (hrest : (x s).errors = [] →
      (Run.ofStep (f (x s).result.1) (x s).result.2).1.value? =
        (Run.ofStep (g (y t).result.1) (y t).result.2).1.value?) :
    (Run.ofStep (x >>= f) s).1.value? = (Run.ofStep (y >>= g) t).1.value? := by
  have hvalue : ∀ {σ : Type} (x : Step σ α) (f : α → Step σ (Option β)) (s : σ),
      (Run.ofStep (x >>= f) s).1.value? =
        if (x s).errors = [] then (Run.ofStep (f (x s).result.1) (x s).result.2).1.value?
        else none := by
    intro σ x f s
    show Outcome.value? ⟨_, (x s).errors ++ _, _⟩ = _
    cases hx : (x s).errors with
    | nil => rfl
    | cons d rest => simp [Outcome.value?, Outcome.hasError]
  rw [hvalue, hvalue]
  by_cases hx : (x s).errors = []
  · rw [if_pos hx, if_pos (h.errors.eq_nil_iff.1 hx), hrest hx]
  · rw [if_neg hx, if_neg fun hy => hx (h.errors.eq_nil_iff.2 hy)]

end Step

namespace Run

theorem agree_ofStep {x : Step σ (Option α)} {y : Step τ (Option α)} (h : Step.Agree view R x y) :
    Agree view R (ofStep x) (ofStep y) := by
  intro s t hst
  exact ⟨(h s t hst).outcome, (h s t hst).result.2⟩

/-- What a constraint does to the diagnostics of a part cannot be seen in its value. -/
theorem agree_attach_left {run : Run σ α} {run' : Run τ α} (h : run.Agree .value R run')
    (constraint : String) (property : Option String) :
    Run.Agree .value R (ofStep (Step.attach constraint run property)) run' := by
  intro s t hst
  obtain ⟨⟨hvalue, herrors, -, -⟩, hR⟩ := h s t hst
  have herrors : (run s).1.errors = [] ↔ (run' t).1.errors = [] := herrors
  refine ⟨⟨?_, ?_, trivial, fun heq => by cases heq⟩, hR⟩
  · rw [← hvalue]
    show (if !(Outcome.wrap constraint property none (run s).1.errors).isEmpty then none
      else (run s).1.value?) = (run s).1.value?
    cases hnil : (run s).1.errors with
    | nil => rfl
    | cons d rest => simp [Outcome.wrap, Outcome.value?, Outcome.hasError, hnil]
  · show Outcome.wrap constraint property none (run s).1.errors = [] ↔ (run' t).1.errors = []
    rw [Outcome.wrap_eq_nil, herrors]

theorem agree_ofNoted {x y : Noted (Option α)} (h : y = x) :
    Agree view R (ofNoted x) (ofNoted y) := by
  obtain rfl := h
  exact fun _ _ hst => ⟨.refl view _, hst⟩

theorem agree_failed (d : Diagnostic) : Agree view R (failed d : Run σ α) (failed d) :=
  fun _ _ h => ⟨.refl view _, h⟩

end Run

end DataSchema
