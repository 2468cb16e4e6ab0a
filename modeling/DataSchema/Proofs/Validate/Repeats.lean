import DataSchema.Proofs.Validate.Frame
import DataSchema.Proofs.Within
import DataSchema.Proofs.Yields

/-!
# Validating twice

Two validations that differ only in what they do at some schemas give the same result, as far as
they do the same there. `Run.Repeats P s run run'` says so of two runs from one state: the first
leaves the state as it was, and the second gives the same result if `P` holds of the errors of the
first.

**Theorem (`repeats_validateIn`).** If one validation repeats another at the children of a schema and
at what it names, then it repeats it at the schema.

`P` has to pass from the errors of a schema to those of its parts (`Passes`): either it is always
true, or it says that there are no errors. Two kinds judge a part by its errors and do not pass them
on, so there the parts have to be the same whatever their errors are (`Schema.judged`): the schema
of property names, whose errors end as a warning, and the members of a combination.
-/

namespace DataSchema

variable {σ α β : Type} {P : List Diagnostic → Prop} {s : σ}

/-- The property holds of the errors of a whole only if it holds of those of its parts. -/
structure Passes (P : List Diagnostic → Prop) : Prop where
  left : ∀ {xs ys}, P (xs ++ ys) → P xs
  right : ∀ {xs ys}, P (xs ++ ys) → P ys
  wrapped : ∀ {constraint property reason xs},
    P (Outcome.wrap constraint property reason xs) → P xs

theorem passes_true : Passes fun _ => True := ⟨id, id, id⟩

theorem passes_nil : Passes (· = []) :=
  ⟨fun h => (List.append_eq_nil_iff.1 h).1, fun h => (List.append_eq_nil_iff.1 h).2,
    Outcome.wrap_eq_nil.1⟩

/-! ## Runs and steps -/

namespace Run

/-- From a state that the first run leaves as it was, the second run does the same. -/
def Same (s : σ) (run run' : StateM σ α) : Prop := (run s).2 = s ∧ run' s = run s

/-- From a state that the first run leaves as it was, the second run does the same if the property
holds of the errors of the first. -/
def Repeats (P : List Diagnostic → Prop) (s : σ) (run run' : Run σ α) : Prop :=
  (run s).2 = s ∧ (P (run s).1.errors → run' s = run s)

theorem Same.repeats {run run' : Run σ α} (h : Same s run run') : Repeats P s run run' :=
  ⟨h.1, fun _ => h.2⟩

theorem Repeats.same {run run' : Run σ α} (h : Repeats (fun _ => True) s run run') :
    Same s run run' :=
  ⟨h.1, h.2 trivial⟩

theorem same_pure (a : α) : Same s (pure a) (pure a) := ⟨rfl, rfl⟩

theorem same_bind {x y : StateM σ α} {f g : α → StateM σ β} (hx : Same s x y)
    (hf : ∀ a, Same s (f a) (g a)) : Same s (x >>= f) (y >>= g) := by
  have hbind : (x >>= f) s = f (x s).1 s := by
    change f (x s).1 (x s).2 = _
    rw [hx.1]
  refine ⟨hbind ▸ (hf _).1, ?_⟩
  rw [hbind, ← (hf _).2]
  change g (y s).1 (y s).2 = _
  rw [hx.2, hx.1]

end Run

namespace Step

/-- From a state that the first step leaves as it was, the second step does the same if the property
holds of the errors of the first. -/
def Repeats (P : List Diagnostic → Prop) (s : σ) (step step' : Step σ α) : Prop :=
  (step s).result.2 = s ∧ (P (step s).errors → step' s = step s)

theorem repeats_pure (a : α) : Repeats P s (pure a) (pure a) := ⟨rfl, fun _ => rfl⟩

theorem repeats_lift (x : Noted α) : Repeats P s (monadLift x) (monadLift x) :=
  ⟨rfl, fun _ => rfl⟩

theorem repeats_bind {x y : Step σ α} {f g : α → Step σ β} (hP : Passes P) (hx : Repeats P s x y)
    (hf : ∀ a, Repeats P s (f a) (g a)) : Repeats P s (x >>= f) (y >>= g) := by
  have hbind : ∀ {x : Step σ α} {f : α → Step σ β}, (x s).result.2 = s → (x >>= f) s =
      ⟨(f (x s).result.1 s).result, (x s).errors ++ (f (x s).result.1 s).errors,
        (x s).warnings ++ (f (x s).result.1 s).warnings⟩ := by
    intro x f h
    change (x s >>= fun p => f p.1 p.2) = _
    rw [Noted.bind_def, h]
  have hfirst := hbind (f := f) hx.1
  refine ⟨hfirst ▸ (hf _).1, fun h => ?_⟩
  rw [hfirst] at h ⊢
  have hy : y s = x s := hx.2 (hP.left h)
  rw [hbind (hy ▸ hx.1), hy, (hf _).2 (hP.right h)]

theorem repeats_attach {part part' : Run σ α} (hP : Passes P) (h : Run.Repeats P s part part')
    (constraint : String) (property : Option String) :
    Repeats P s (attach constraint part property) (attach constraint part' property) := by
  refine ⟨h.1, fun he => ?_⟩
  unfold attach
  rw [h.2 (hP.wrapped he)]

theorem repeats_merge {part part' : Run σ α} (h : Run.Repeats P s part part') :
    Repeats P s (merge part) (merge part') := by
  refine ⟨h.1, fun he => ?_⟩
  unfold merge
  rw [h.2 he]

theorem repeats_quietly {part part' : Run σ α} (h : Run.Same s part part') :
    Repeats P s (quietly part) (quietly part') := by
  refine ⟨h.1, fun _ => ?_⟩
  unfold quietly
  rw [h.2]

end Step

theorem Run.repeats_ofStep {step step' : Step σ (Option α)} (h : Step.Repeats P s step step') :
    Repeats P s (ofStep step) (ofStep step') := by
  refine ⟨h.1, fun he => ?_⟩
  unfold ofStep
  rw [h.2 he]

/-- The children whose errors a schema judges and does not pass on. -/
def Schema.judged (s : Schema) : List Schema :=
  match s.kind with
  | .object o => o.propertyNames.toList
  | .combine _ => s.children
  | _ => []

namespace Validate

open Step

variable {ctx ctx' : Context} {count : Nat}

/-! ## Arrays and objects -/

theorem repeats_elements (hP : Passes P) {items : Schema}
    (h : ∀ data, Run.Repeats P count (ctx.nested items data) (ctx'.nested items data)) (i : Nat)
    (values : List Json) :
    Repeats P count (elements ctx items i values) (elements ctx' items i values) := by
  induction values generalizing i with
  | nil => exact repeats_pure []
  | cons element rest ih =>
    exact repeats_bind hP (repeats_attach hP (h _) _ _) fun _ =>
      repeats_bind hP (ih (i + 1)) fun _ => repeats_pure _

theorem repeats_property (hP : Passes P) {schema : Schema}
    (h : ∀ data, Run.Repeats P count (ctx.nested schema data) (ctx'.nested schema data))
    (name : String) (value : Option Json) (output : Dict Json) :
    Repeats P count (property ctx schema name value output)
      (property ctx' schema name value output) :=
  repeats_bind hP (repeats_attach hP (h _) _ _) fun _ => repeats_pure _

theorem repeats_declared (hP : Passes P) (input : Dict Json) {ps : List (String × Schema)}
    (h : ∀ p ∈ ps, ∀ data, Run.Repeats P count (ctx.nested p.2 data) (ctx'.nested p.2 data))
    (output : Dict Json) :
    Repeats P count (declared ctx input ps output) (declared ctx' input ps output) := by
  induction ps generalizing output with
  | nil => exact repeats_pure output
  | cons p rest ih =>
    obtain ⟨hp, hrest⟩ := List.forall_mem_cons.1 h
    exact repeats_bind hP (repeats_property hP hp _ _ _) fun _ => ih hrest _

theorem repeats_noteDropped (o : ObjectSchema) (d : Diagnostic) :
    Repeats P count (noteDropped o d) (noteDropped o d) := by
  unfold noteDropped
  split
  · exact repeats_lift _
  · exact repeats_pure _

theorem repeats_keepsAdditional (hP : Passes P) {o : ObjectSchema}
    (h : ∀ names ∈ o.propertyNames.toList, ∀ data,
      Run.Same count (ctx.nested names data) (ctx'.nested names data)) (name : String) :
    Repeats P count (keepsAdditional ctx o name) (keepsAdditional ctx' o name) := by
  unfold keepsAdditional
  split
  · exact repeats_bind hP (repeats_noteDropped _ _) fun _ => repeats_pure _
  · split
    · exact repeats_pure _
    · next names hnames =>
      refine repeats_bind hP (repeats_quietly (h names (by simp [hnames]) _)) fun checked => ?_
      split
      · exact repeats_pure _
      · exact repeats_bind hP (repeats_noteDropped _ _) fun _ => repeats_pure _

theorem mem_of_patternProperty? {o : ObjectSchema} {name : String} {schema : Schema}
    (h : patternProperty? o name = some schema) :
    schema ∈ (o.regexNameProperties.getD []).map (·.2) := by
  obtain ⟨p, hp, rfl⟩ := Option.map_eq_some_iff.1 h
  exact List.mem_map_of_mem (List.mem_of_find?_eq_some hp)

theorem repeats_undeclared (hP : Passes P) {o : ObjectSchema}
    (hpatterns : ∀ c ∈ (o.regexNameProperties.getD []).map (·.2), ∀ data,
      Run.Repeats P count (ctx.nested c data) (ctx'.nested c data))
    (hnames : ∀ names ∈ o.propertyNames.toList, ∀ data,
      Run.Same count (ctx.nested names data) (ctx'.nested names data))
    (name : String) (value : Json) (output : Dict Json) :
    Repeats P count (undeclared ctx o name value output) (undeclared ctx' o name value output) := by
  unfold undeclared
  split
  · next schema hschema =>
    exact repeats_property hP (hpatterns _ (mem_of_patternProperty? hschema)) _ _ _
  · exact repeats_bind hP (repeats_keepsAdditional hP hnames name) fun _ => repeats_pure _

theorem repeats_others (hP : Passes P) {o : ObjectSchema}
    (hpatterns : ∀ c ∈ (o.regexNameProperties.getD []).map (·.2), ∀ data,
      Run.Repeats P count (ctx.nested c data) (ctx'.nested c data))
    (hnames : ∀ names ∈ o.propertyNames.toList, ∀ data,
      Run.Same count (ctx.nested names data) (ctx'.nested names data))
    (entries : List (String × Json)) (output : Dict Json) :
    Repeats P count (others ctx o entries output) (others ctx' o entries output) := by
  induction entries generalizing output with
  | nil => exact repeats_pure output
  | cons e rest ih =>
    unfold others
    split
    · exact ih output
    · exact repeats_bind hP (repeats_undeclared hP hpatterns hnames _ _ _) fun _ => ih _

/-! ## Combinations -/

theorem same_allOf {members : List Schema}
    (h : ∀ m ∈ members, ∀ data, Run.Same count (ctx.nested m data) (ctx'.nested m data)) (i : Nat)
    (current : Json) :
    Run.Same count (allOf ctx i current members) (allOf ctx' i current members) := by
  induction members generalizing i current with
  | nil => exact Run.same_pure _
  | cons member rest ih =>
    obtain ⟨hmember, hrest⟩ := List.forall_mem_cons.1 h
    refine Run.same_bind (hmember _) fun part => ?_
    dsimp only
    split
    · exact Run.same_pure _
    · exact Run.same_bind (ih hrest _ _) fun _ => Run.same_pure _

theorem same_anyOf {members : List Schema}
    (h : ∀ m ∈ members, ∀ data, Run.Same count (ctx.nested m data) (ctx'.nested m data))
    (data : Json) (i : Nat) :
    Run.Same count (anyOf ctx data i members) (anyOf ctx' data i members) := by
  induction members generalizing i with
  | nil => exact Run.same_pure _
  | cons member rest ih =>
    obtain ⟨hmember, hrest⟩ := List.forall_mem_cons.1 h
    refine Run.same_bind (hmember _) fun part => ?_
    dsimp only
    split
    · exact Run.same_bind (ih hrest _) fun _ => Run.same_pure _
    · exact Run.same_pure _

theorem same_memberOutcomes {members : List Schema}
    (h : ∀ m ∈ members, ∀ data, Run.Same count (ctx.nested m data) (ctx'.nested m data))
    (data : Json) :
    Run.Same count (memberOutcomes ctx data members) (memberOutcomes ctx' data members) := by
  induction members with
  | nil => exact Run.same_pure _
  | cons member rest ih =>
    obtain ⟨hmember, hrest⟩ := List.forall_mem_cons.1 h
    exact Run.same_bind (hmember _) fun _ => Run.same_bind (ih hrest) fun _ => Run.same_pure _

theorem same_groupOutcome {group : Option (List Schema)} {run run' : List Schema → Run}
    (h : Run.Same count (run (group.getD [])) (run' (group.getD []))) :
    Run.Same count (groupOutcome group run) (groupOutcome group run') := by
  unfold groupOutcome
  split
  · exact Run.same_pure _
  · exact Run.same_pure _
  · exact Run.same_bind h fun _ => Run.same_pure _

theorem same_grouped {c : CombineSchema}
    (h : ∀ m ∈ c.allOf.getD [] ++ c.anyOf.getD [] ++ c.oneOf.getD [], ∀ data,
      Run.Same count (ctx.nested m data) (ctx'.nested m data)) (data : Json) :
    Run.Same count (grouped ctx c data) (grouped ctx' c data) := by
  obtain ⟨h, hone⟩ := List.forall_mem_append.1 h
  obtain ⟨hall, hany⟩ := List.forall_mem_append.1 h
  refine Run.same_bind ?_ fun _ => Run.same_pure _
  refine Run.same_bind (same_groupOutcome (same_allOf hall 0 data)) fun _ => ?_
  refine Run.same_bind (same_groupOutcome (same_anyOf hany data 0)) fun _ => ?_
  have hexactly : Run.Same count (oneOf ctx data (c.oneOf.getD []))
      (oneOf ctx' data (c.oneOf.getD [])) :=
    Run.same_bind (same_memberOutcomes hone data) fun _ => Run.same_pure _
  exact Run.same_bind (same_groupOutcome hexactly) fun _ => Run.same_pure _

/-! ## References -/

/-- A reference that is followed below the limits is followed likewise. A lower limit is met by an
error, which must not have the property, and is no concern where the limits are equal. -/
theorem repeats_follow {reference : String} (htarget : ctx'.target? = ctx.target?)
    (hle : ctx.options.maxRefDepth.toNat ≤ ctx'.options.maxRefDepth.toNat)
    (hlimit : ctx'.options = ctx.options ∨ ∀ d, ¬ P [d])
    (h : count < ctx.options.maxRefDepth.toNat → ∀ target, ctx.target? reference = some target →
      ∀ data, Run.Repeats P (count + 1) (ctx.nested target data) (ctx'.nested target data))
    (data : Option Json) :
    Run.Repeats P count (ctx.follow reference data) (ctx'.follow reference data) := by
  unfold Run.Repeats Context.follow
  rw [htarget]
  by_cases hcount : ctx.options.maxRefDepth.toNat ≤ count
  · rw [if_pos hcount]
    refine ⟨rfl, fun hP => ?_⟩
    rcases hlimit with heq | hrejects
    · rw [heq, if_pos hcount]
    · exact absurd hP (hrejects _)
  · rw [if_neg hcount, if_neg (fun h' => hcount (Nat.le_trans hle h'))]
    cases htarget : ctx.target? reference with
    | none => exact ⟨rfl, fun _ => rfl⟩
    | some target =>
      obtain ⟨hcount', hsame⟩ := h (Nat.lt_of_not_le hcount) target htarget data
      refine ⟨?_, fun hP => ?_⟩
      · change (ctx.nested target data (count + 1)).2 - 1 = count
        rw [hcount', Nat.add_sub_cancel]
      · dsimp only
        rw [hsame hP]

/-! ## All kinds -/

/-- One context repeats another at what stands in a schema and at what it names. -/
structure Context.Repeats (P : List Diagnostic → Prop) (count : Nat) (s : Schema)
    (ctx ctx' : Context) : Prop where
  child : ∀ c ∈ s.children, ∀ data,
    Run.Repeats P count (ctx.nested c data) (ctx'.nested c data)
  judged : ∀ c ∈ s.judged, ∀ data, Run.Same count (ctx.nested c data) (ctx'.nested c data)
  follow : ∀ reference, s.kind = .ref reference → ∀ data,
    Run.Repeats P count (ctx.follow reference data) (ctx'.follow reference data)

theorem repeats_array (hP : Passes P) {s : Schema} (h : ctx.Repeats P count s ctx')
    (data : Option Json) : Repeats P count (array ctx s data) (array ctx' s data) := by
  unfold array
  split
  · next items unique hkind =>
    have hitems := h.child items (by simp [Schema.children, hkind])
    refine repeats_bind hP (repeats_lift _) fun given => ?_
    split
    · exact repeats_pure _
    · split
      · exact repeats_lift _
      · exact repeats_bind hP (repeats_elements hP hitems _ _) fun _ => repeats_pure _
    · exact repeats_lift _
  · exact repeats_lift _

theorem repeats_object (hP : Passes P) {s : Schema} (h : ctx.Repeats P count s ctx')
    (data : Option Json) : Repeats P count (object ctx s data) (object ctx' s data) := by
  unfold object
  split
  · next o hkind =>
    obtain ⟨hchild, hjudged, -⟩ := h
    simp only [Schema.children, Schema.judged, hkind] at hchild hjudged
    obtain ⟨hlisted, -⟩ := List.forall_mem_append.1 hchild
    obtain ⟨hdeclared, hpatterns⟩ := List.forall_mem_append.1 hlisted
    refine repeats_bind hP (repeats_lift _) fun given => ?_
    split
    · exact repeats_pure _
    · next input =>
      have hfields : Repeats P count (some <$> fields ctx o input) (some <$> fields ctx' o input) :=
        repeats_bind hP
          (repeats_bind hP (repeats_declared hP input (List.forall_mem_map.1 hdeclared) [])
            fun _ => repeats_others hP hpatterns hjudged _ _)
          fun _ => repeats_pure _
      refine repeats_bind hP (repeats_merge (Run.repeats_ofStep hfields)) fun output => ?_
      split
      · exact repeats_pure _
      · exact repeats_bind hP (repeats_lift _) fun _ => repeats_pure _
    · exact repeats_lift _
  · exact repeats_lift _

theorem repeats_reference (hP : Passes P) {s : Schema} (h : ctx.Repeats P count s ctx')
    (data : Option Json) : Repeats P count (reference ctx s data) (reference ctx' s data) := by
  unfold reference
  split
  · next name hkind =>
    refine repeats_bind hP (repeats_lift _) fun given => ?_
    split
    · exact repeats_pure _
    · exact repeats_merge (h.follow name hkind _)
  · exact repeats_lift _

theorem repeats_combine (hP : Passes P) {s : Schema} (h : ctx.Repeats P count s ctx')
    (data : Option Json) : Repeats P count (combine ctx s data) (combine ctx' s data) := by
  unfold combine
  split
  · next c hkind =>
    have hjudged := h.judged
    simp only [Schema.judged, Schema.children, hkind] at hjudged
    refine repeats_bind hP (repeats_lift _) fun given => ?_
    split
    · exact repeats_pure _
    · exact repeats_merge (same_grouped hjudged _).repeats
  · exact repeats_lift _

theorem repeats_builtin (hP : Passes P) {name : String} {t : TypeValidator}
    (ht : (name, t) ∈ TypeValidator.builtin) {s : Schema} (h : ctx.Repeats P count s ctx')
    (data : Option Json) : Run.Repeats P count (t ctx s data) (t ctx' s data) := by
  simp only [TypeValidator.builtin, List.mem_cons, Prod.mk.injEq, List.not_mem_nil, or_false] at ht
  have hscalar : ∀ validate : Schema → Option Json → Noted (Option Json),
      Run.Repeats P count (TypeValidator.scalar validate ctx s data)
        (TypeValidator.scalar validate ctx' s data) :=
    fun _ => ⟨rfl, fun _ => rfl⟩
  rcases ht with ⟨-, rfl⟩ | ⟨-, rfl⟩ | ⟨-, rfl⟩ | ⟨-, rfl⟩ | ⟨-, rfl⟩ | ⟨-, rfl⟩ | ⟨-, rfl⟩ |
    ⟨-, rfl⟩ | ⟨-, rfl⟩
  · exact Run.repeats_ofStep (repeats_array hP h data)
  · exact hscalar _
  · exact Run.repeats_ofStep (repeats_combine hP h data)
  · exact hscalar _
  · exact hscalar _
  · exact hscalar _
  · exact Run.repeats_ofStep (repeats_object hP h data)
  · exact Run.repeats_ofStep (repeats_reference hP h data)
  · exact hscalar _

end Validate

namespace Validator

/-- Validates data against a schema in a context, by the type of the schema. -/
def validateIn (v : Validator) (ctx : Validate.Context) (s : Schema) (data : Option Json) :
    Validate.Run :=
  match v.types.get? s.typeName with
  | none => .failed (.of "type" ("unknown schema type: " ++ s.typeName ++ "."))
  | some t => t ctx s data

theorem validateWithin_eq (v : Validator) (top : Option TopSchema) (n : Nat) :
    v.validateWithin top (n + 1) = v.validateIn (v.context top n) := rfl

/-- **A validation repeats another at a schema if it does so at the children and at what the schema
names.** -/
theorem repeats_validateIn (options options' : ValidatorOptions) (hP : Passes P)
    {ctx ctx' : Validate.Context} {count : Nat} {s : Schema} (h : ctx.Repeats P count s ctx')
    (data : Option Json) :
    Run.Repeats P count ((builtin options).validateIn ctx s data)
      ((builtin options').validateIn ctx' s data) := by
  unfold validateIn
  dsimp only [builtin]
  cases ht : TypeValidator.builtin.get? s.typeName with
  | none => exact ⟨rfl, fun _ => rfl⟩
  | some t => exact Validate.repeats_builtin hP (Dict.mem_of_get? ht) h data

end Validator

end DataSchema
