import DataSchema.Proofs.Dict
import DataSchema.Validator

/-!
# Validating keeps count of references

The state of a validation is the number of references that are being followed.

**Theorem (`framed_validateWithin`).** A validation leaves that number as it was, whether or not it
meets errors.

Sequences of steps that keep the state keep it, so only following a reference needs a look: it adds
one for the nested validation, which keeps the sum, and takes it away.
-/

namespace DataSchema

variable {σ α β : Type}

namespace Run

/-- The run leaves the state as it was. -/
def Framed (run : StateM σ α) : Prop := ∀ s, (run s).2 = s

theorem framed_pure (a : α) : Framed (pure a : StateM σ α) := fun _ => rfl

theorem framed_bind {x : StateM σ α} {f : α → StateM σ β} (hx : Framed x)
    (hf : ∀ a, Framed (f a)) : Framed (x >>= f) := by
  intro s
  change (f (x s).1 (x s).2).2 = s
  rw [hf, hx]

/-- What follows begins with the state that was there before. -/
theorem Framed.bind_apply {x : StateM σ α} (h : Framed x) (f : α → StateM σ β) (s : σ) :
    (x >>= f) s = f (x s).1 s := by
  change f (x s).1 (x s).2 = _
  rw [h]

end Run

namespace Step

/-- The step leaves the state as it was. -/
def Framed (step : Step σ α) : Prop := ∀ s, (step s).result.2 = s

theorem framed_pure (a : α) : Framed (pure a : Step σ α) := fun _ => rfl

theorem framed_bind {x : Step σ α} {f : α → Step σ β} (hx : Framed x) (hf : ∀ a, Framed (f a)) :
    Framed (x >>= f) := by
  intro s
  change (f (x s).result.1 (x s).result.2).result.2 = s
  rw [hf, hx]

theorem framed_lift (x : Noted α) : Framed (monadLift x : Step σ α) := fun _ => rfl

theorem framed_attach (constraint : String) {part : Run σ α} (property : Option String)
    (h : Run.Framed part) : Framed (attach constraint part property) := h

theorem framed_merge {part : Run σ α} (h : Run.Framed part) : Framed (merge part) := h

theorem framed_quietly {part : Run σ α} (h : Run.Framed part) : Framed (quietly part) := h

end Step

theorem Run.framed_ofStep {step : Step σ (Option α)} (h : step.Framed) :
    Framed (ofStep step) := h

theorem Run.framed_ofNoted (x : Noted (Option α)) : Framed (ofNoted x : Run σ α) := fun _ => rfl

namespace Validate

open Step

variable {ctx : Context}

/-- Nested validations keep the count. -/
def Context.Framed (ctx : Context) : Prop := ∀ s data, Run.Framed (ctx.nested s data)

/-! ## Arrays and objects -/

theorem framed_elements (hn : ctx.Framed) (items : Schema)
    (i : Nat) (values : List Json) : Framed (elements ctx items i values) := by
  induction values generalizing i with
  | nil => exact framed_pure []
  | cons element rest ih =>
    exact framed_bind (framed_attach _ _ (hn items _)) fun _ =>
      framed_bind (ih (i + 1)) fun _ => framed_pure _

theorem framed_array (hn : ctx.Framed) (s : Schema)
    (data : Option Json) : Framed (array ctx s data) := by
  unfold array
  split
  · refine framed_bind (framed_lift _) fun given => ?_
    split
    · exact framed_pure _
    · split
      · exact framed_lift _
      · exact framed_bind (framed_elements hn _ _ _) fun _ => framed_pure _
    · exact framed_lift _
  · exact framed_lift _

theorem framed_property (hn : ctx.Framed) (s : Schema)
    (name : String) (value : Option Json) (output : Dict Json) :
    Framed (property ctx s name value output) :=
  framed_bind (framed_attach _ _ (hn s value)) fun _ => framed_pure _

theorem framed_declared (hn : ctx.Framed) (input : Dict Json)
    (ps : List (String × Schema)) (output : Dict Json) :
    Framed (declared ctx input ps output) := by
  induction ps generalizing output with
  | nil => exact framed_pure output
  | cons p rest ih => exact framed_bind (framed_property hn _ _ _ _) fun _ => ih _

theorem framed_noteDropped (o : ObjectSchema) (d : Diagnostic) : Framed (noteDropped o d) := by
  unfold noteDropped
  split
  · exact framed_lift _
  · exact framed_pure _

theorem framed_keepsAdditional (hn : ctx.Framed)
    (o : ObjectSchema) (name : String) : Framed (keepsAdditional ctx o name) := by
  unfold keepsAdditional
  split
  · exact framed_bind (framed_noteDropped _ _) fun _ => framed_pure _
  · split
    · exact framed_pure _
    · refine framed_bind (framed_quietly (hn _ _)) fun checked => ?_
      split
      · exact framed_pure _
      · exact framed_bind (framed_noteDropped _ _) fun _ => framed_pure _

theorem framed_undeclared (hn : ctx.Framed) (o : ObjectSchema)
    (name : String) (value : Json) (output : Dict Json) :
    Framed (undeclared ctx o name value output) := by
  unfold undeclared
  split
  · exact framed_property hn _ _ _ _
  · exact framed_bind (framed_keepsAdditional hn o name) fun _ => framed_pure _

theorem framed_others (hn : ctx.Framed) (o : ObjectSchema)
    (entries : List (String × Json)) (output : Dict Json) :
    Framed (others ctx o entries output) := by
  induction entries generalizing output with
  | nil => exact framed_pure output
  | cons e rest ih =>
    unfold others
    split
    · exact ih output
    · exact framed_bind (framed_undeclared hn _ _ _ _) fun _ => ih _

theorem framed_fields (hn : ctx.Framed) (o : ObjectSchema)
    (input : Dict Json) : Framed (fields ctx o input) :=
  framed_bind (framed_declared hn _ _ _) fun _ => framed_others hn _ _ _

theorem framed_object (hn : ctx.Framed) (s : Schema)
    (data : Option Json) : Framed (object ctx s data) := by
  unfold object
  split
  · next o _ =>
    refine framed_bind (framed_lift _) fun given => ?_
    split
    · exact framed_pure _
    · next input =>
      have hfields : Framed (some <$> fields ctx o input) := by
        rw [← bind_pure_comp]
        exact framed_bind (framed_fields hn o input) fun _ => framed_pure _
      refine framed_bind (framed_merge (Run.framed_ofStep hfields)) fun output => ?_
      split
      · exact framed_pure _
      · exact framed_bind (framed_lift _) fun _ => framed_pure _
    · exact framed_lift _
  · exact framed_lift _

/-! ## References -/

theorem framed_follow (hn : ctx.Framed) (reference : String)
    (data : Option Json) : Run.Framed (ctx.follow reference data) := by
  intro depth
  unfold Context.follow
  split
  · rfl
  · split
    · rfl
    · next target _ =>
      show (ctx.nested target data (depth + 1)).2 - 1 = depth
      rw [hn, Nat.add_sub_cancel]

theorem framed_reference (hn : ctx.Framed) (s : Schema)
    (data : Option Json) : Framed (reference ctx s data) := by
  unfold reference
  split
  · refine framed_bind (framed_lift _) fun given => ?_
    split
    · exact framed_pure _
    · exact framed_merge (framed_follow hn _ _)
  · exact framed_lift _

/-! ## Combinations -/

theorem framed_allOf (hn : ctx.Framed) (i : Nat)
    (current : Json) (members : List Schema) :
    Run.Framed (allOf ctx i current members) := by
  induction members generalizing i current with
  | nil => exact Run.framed_pure _
  | cons member rest ih =>
    refine Run.framed_bind (hn _ _) fun part => ?_
    dsimp only
    split
    · exact Run.framed_pure _
    · exact Run.framed_bind (ih _ _) fun _ => Run.framed_pure _

theorem framed_anyOf (hn : ctx.Framed) (data : Json) (i : Nat)
    (members : List Schema) : Run.Framed (anyOf ctx data i members) := by
  induction members generalizing i with
  | nil => exact Run.framed_pure _
  | cons member rest ih =>
    refine Run.framed_bind (hn _ _) fun part => ?_
    dsimp only
    split
    · exact Run.framed_bind (ih _) fun _ => Run.framed_pure _
    · exact Run.framed_pure _

theorem framed_memberOutcomes (hn : ctx.Framed) (data : Json)
    (members : List Schema) : Run.Framed (memberOutcomes ctx data members) := by
  induction members with
  | nil => exact Run.framed_pure _
  | cons member rest ih =>
    exact Run.framed_bind (hn _ _) fun _ =>
      Run.framed_bind ih fun _ => Run.framed_pure _

theorem framed_oneOf (hn : ctx.Framed) (data : Json)
    (members : List Schema) : Run.Framed (oneOf ctx data members) :=
  Run.framed_bind (framed_memberOutcomes hn _ _) fun _ => Run.framed_pure _

theorem framed_groupOutcome {run : List Schema → Run} (h : ∀ members, Run.Framed (run members))
    (group : Option (List Schema)) : Run.Framed (groupOutcome group run) := by
  unfold groupOutcome
  split
  · exact Run.framed_pure _
  · exact Run.framed_pure _
  · exact Run.framed_bind (h _) fun _ => Run.framed_pure _

theorem framed_grouped (hn : ctx.Framed) (c : CombineSchema)
    (data : Json) : Run.Framed (grouped ctx c data) := by
  refine Run.framed_bind ?_ fun _ => Run.framed_pure _
  refine Run.framed_bind (framed_groupOutcome (framed_allOf hn 0 data) _) fun _ => ?_
  refine Run.framed_bind (framed_groupOutcome (framed_anyOf hn data 0) _) fun _ => ?_
  exact Run.framed_bind (framed_groupOutcome (framed_oneOf hn data) _) fun _ =>
    Run.framed_pure _

theorem framed_combine (hn : ctx.Framed) (s : Schema)
    (data : Option Json) : Framed (combine ctx s data) := by
  unfold combine
  split
  · refine framed_bind (framed_lift _) fun given => ?_
    split
    · exact framed_pure _
    · exact framed_merge (framed_grouped hn _ _)
  · exact framed_lift _

end Validate

/-! ## All kinds -/

namespace Validator

/-- The context of validating with a bound on the depth. -/
def context (v : Validator) (top : Option TopSchema) (n : Nat) : Validate.Context :=
  { options := v.options
    target? := fun reference => top.bind (·.definition? reference v.options.definitionPathPrefix)
    nested := v.validateWithin top n }

theorem validateWithin_succ {v : Validator} {top : Option TopSchema} {n : Nat} {s : Schema}
    {t : TypeValidator} (ht : v.types.get? s.typeName = some t) (data : Option Json) :
    v.validateWithin top (n + 1) s data = t (v.context top n) s data := by
  rw [validateWithin]
  simp only [ht]
  rfl

theorem framed_builtin {name : String} {t : TypeValidator} (h : (name, t) ∈ TypeValidator.builtin)
    {ctx : Validate.Context} (hn : ctx.Framed) (s : Schema) (data : Option Json) :
    Run.Framed (t ctx s data) := by
  simp only [TypeValidator.builtin, List.mem_cons, Prod.mk.injEq, List.not_mem_nil,
    or_false] at h
  rcases h with ⟨-, rfl⟩ | ⟨-, rfl⟩ | ⟨-, rfl⟩ | ⟨-, rfl⟩ | ⟨-, rfl⟩ | ⟨-, rfl⟩ | ⟨-, rfl⟩ |
    ⟨-, rfl⟩ | ⟨-, rfl⟩
  · exact Run.framed_ofStep (Validate.framed_array hn s data)
  · exact Run.framed_ofNoted _
  · exact Run.framed_ofStep (Validate.framed_combine hn s data)
  · exact Run.framed_ofNoted _
  · exact Run.framed_ofNoted _
  · exact Run.framed_ofNoted _
  · exact Run.framed_ofStep (Validate.framed_object hn s data)
  · exact Run.framed_ofStep (Validate.framed_reference hn s data)
  · exact Run.framed_ofNoted _

/-- **A validation leaves the number of references that are being followed as it was.** -/
theorem framed_validateWithin (options : ValidatorOptions) (top : Option TopSchema) (n : Nat)
    (s : Schema) (data : Option Json) :
    Run.Framed ((builtin options).validateWithin top n s data) := by
  induction n generalizing s data with
  | zero => exact fun _ => rfl
  | succ n ih =>
    cases ht : (builtin options).types.get? s.typeName with
    | none =>
      intro depth
      rw [validateWithin]
      simp only [ht]
      rfl
    | some t =>
      rw [validateWithin_succ ht]
      have hn : ((builtin options).context top n).Framed := fun s data => ih s data
      exact framed_builtin (Dict.mem_of_get? ht) hn s data

end Validator

end DataSchema
