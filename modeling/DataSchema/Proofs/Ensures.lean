import DataSchema.Proofs.Agree

/-!
# What all runs ensure

`Proofs.Yields` speaks of runs without errors. The laws here speak of all runs, and of what the
leaves of their errors are.

**Leaves.** A diagnostic on a part wraps those of the part, so the constraint and the reason of a
leaf stay what they were where they arose (`leaves_wrap`); only the path to it grows.

**Ensuring.** A step `Ensures Q R S` if from a state with `R` each leaf of its errors satisfies `Q`,
its result satisfies `S`, and the state has `R` again. A sequence ensures what its parts do.

**Showing.** A step `Shows Q R` if from a state with `R` some leaf of its errors does not satisfy
`Q`. A sequence shows what one of its parts does, since errors are never taken back.
-/

namespace DataSchema

/-! ## Leaves -/

namespace Diagnostic

/-- Every leaf of the diagnostics satisfies a property of its constraint and its reason. -/
def Leaves (Q : String → String → Prop) (ds : List Diagnostic) : Prop :=
  ∀ leaf ∈ flattenAll ds, Q leaf.constraint leaf.reason

variable {Q : String → String → Prop} {xs ys : List Diagnostic}

theorem flattenAllUnder_append (path : Option String) (xs ys : List Diagnostic) :
    flattenAllUnder path (xs ++ ys) = flattenAllUnder path xs ++ flattenAllUnder path ys := by
  induction xs with
  | nil => rfl
  | cons d rest ih => rw [List.cons_append, flattenAllUnder, flattenAllUnder, ih, List.append_assoc]

/-- What is the same about a leaf below any path. -/
def cause (leaf : FlatDiagnostic) : String × String := (leaf.constraint, leaf.reason)

mutual

theorem causes_flattenUnder (path path' : Option String) :
    ∀ d, (flattenUnder path d).map cause = (flattenUnder path' d).map cause
  | ⟨_, _, _, []⟩ => rfl
  | ⟨_, _, _, d :: rest⟩ => causes_flattenAllUnder _ _ (d :: rest)

theorem causes_flattenAllUnder (path path' : Option String) :
    ∀ ds, (flattenAllUnder path ds).map cause = (flattenAllUnder path' ds).map cause
  | [] => rfl
  | d :: rest => by
    rw [flattenAllUnder, flattenAllUnder, List.map_append, List.map_append,
      causes_flattenUnder path path' d, causes_flattenAllUnder path path' rest]

end

/-- Whether leaves satisfy a property does not depend on the path to them. -/
theorem leaves_under (path : Option String) :
    (∀ leaf ∈ flattenAllUnder path xs, Q leaf.constraint leaf.reason) ↔ Leaves Q xs := by
  have hcauses : ∀ path, (∀ leaf ∈ flattenAllUnder path xs, Q leaf.constraint leaf.reason) ↔
      ∀ c ∈ (flattenAllUnder path xs).map cause, Q c.1 c.2 := fun path => by
    rw [List.forall_mem_map]
    rfl
  rw [Leaves, flattenAll, hcauses, hcauses, causes_flattenAllUnder path none]

@[simp] theorem leaves_nil : Leaves Q [] := fun _ hleaf => nomatch hleaf

theorem leaves_append : Leaves Q (xs ++ ys) ↔ Leaves Q xs ∧ Leaves Q ys := by
  rw [Leaves, flattenAll, flattenAllUnder_append, List.forall_mem_append]
  exact Iff.rfl

theorem leaves_leaf {constraint reason : String} {property : Option String} :
    Leaves Q [⟨constraint, property, reason, []⟩] ↔ Q constraint reason := by
  simp [Leaves, flattenAll, flattenAllUnder, flattenUnder]

theorem leaves_of {constraint reason : String} : Leaves Q [.of constraint reason] ↔
    Q constraint reason :=
  leaves_leaf

theorem leaves_cons {constraint reason : String} {property : Option String} {d : Diagnostic} :
    Leaves Q [⟨constraint, property, reason, d :: xs⟩] ↔ Leaves Q (d :: xs) := by
  have hleaves : flattenAll [⟨constraint, property, reason, d :: xs⟩] =
      flattenAllUnder (joinPath none property) (d :: xs) := by
    rw [flattenAll, flattenAllUnder, flattenAllUnder, List.append_nil, flattenUnder]
  rw [Leaves, hleaves]
  exact leaves_under _

/-- **Wrapping keeps the leaves.** -/
theorem leaves_wrap {constraint : String} {property reason : Option String} :
    Leaves Q (Outcome.wrap constraint property reason xs) ↔ Leaves Q xs := by
  cases xs with
  | nil => exact Iff.rfl
  | cons d rest => exact leaves_cons

end Diagnostic

open Diagnostic (Leaves)

variable {σ α β : Type} {Q : String → String → Prop} {R : σ → Prop} {S : α → Prop} {T : β → Prop}

/-! ## Noted results -/

/-- The leaves of the errors satisfy one property, and the result another. -/
structure Noted.Ensures (Q : String → String → Prop) (S : α → Prop) (x : Noted α) : Prop where
  errors : Leaves Q x.errors
  result : S x.result

namespace Noted

theorem ensures_pure {a : α} (h : S a) : (pure a : Noted α).Ensures Q S :=
  ⟨Diagnostic.leaves_nil, h⟩

theorem Ensures.bind {x : Noted α} {f : α → Noted β} (hx : x.Ensures Q S)
    (hf : ∀ a, S a → (f a).Ensures Q T) : (x >>= f).Ensures Q T :=
  ⟨Diagnostic.leaves_append.2 ⟨hx.errors, (hf _ hx.result).errors⟩, (hf _ hx.result).result⟩

theorem ensures_error {constraint reason : String} {property : Option String}
    (h : Q constraint reason) :
    (error ⟨constraint, property, reason, []⟩).Ensures Q fun _ => True :=
  ⟨Diagnostic.leaves_leaf.2 h, trivial⟩

theorem ensures_warning (d : Diagnostic) : (warning d).Ensures Q fun _ => True :=
  ⟨Diagnostic.leaves_nil, trivial⟩

end Noted

/-! ## Runs and steps -/

/-- From a state with one property, the leaves of the errors satisfy another, the stored value a
third, and the state keeps its own. -/
def Run.Ensures (Q : String → String → Prop) (R : σ → Prop) (S : α → Prop) (run : Run σ α) : Prop :=
  ∀ s, R s → Leaves Q (run s).1.errors ∧ (∀ a ∈ (run s).1.stored, S a) ∧ R (run s).2

/-- From a state with a property, some leaf of the errors does not satisfy another. -/
def Run.Shows (Q : String → String → Prop) (R : σ → Prop) (run : Run σ α) : Prop :=
  ∀ s, R s → ¬ Leaves Q (run s).1.errors

namespace Step

/-- From a state with one property, the leaves of the errors satisfy another, the result a third,
and the state keeps its own. -/
def Ensures (Q : String → String → Prop) (R : σ → Prop) (S : α → Prop) (step : Step σ α) : Prop :=
  ∀ s, R s → Leaves Q (step s).errors ∧ S (step s).result.1 ∧ R (step s).result.2

/-- From a state with a property, some leaf of the errors does not satisfy another. -/
def Shows (Q : String → String → Prop) (R : σ → Prop) (step : Step σ α) : Prop :=
  ∀ s, R s → ¬ Leaves Q (step s).errors

theorem ensures_pure {a : α} (h : S a) : Ensures Q R S (pure a) :=
  fun _ hs => ⟨Diagnostic.leaves_nil, h, hs⟩

theorem ensures_lift {x : Noted α} (h : x.Ensures Q S) : Ensures Q R S (monadLift x) := by
  intro s hs
  refine ⟨?_, h.result, hs⟩
  show Leaves Q (x.errors ++ [])
  rw [List.append_nil]
  exact h.errors

theorem Ensures.bind {x : Step σ α} {f : α → Step σ β} (hx : Ensures Q R S x)
    (hf : ∀ a, S a → Ensures Q R T (f a)) : Ensures Q R T (x >>= f) := by
  intro s hs
  obtain ⟨herrors, hresult, hstate⟩ := hx s hs
  obtain ⟨herrors', hresult', hstate'⟩ := hf _ hresult _ hstate
  rw [bind_apply]
  exact ⟨Diagnostic.leaves_append.2 ⟨herrors, herrors'⟩, hresult', hstate'⟩

theorem ensures_noteError {constraint reason : String} {property : Option String}
    (h : Q constraint reason) :
    Ensures Q R (fun _ => True) (noteError ⟨constraint, property, reason, []⟩) :=
  ensures_lift (Noted.ensures_error h)

theorem ensures_get_bind {f : σ → Step σ α} (h : ∀ s, R s → Ensures Q R S (f s)) :
    Ensures Q R S (get >>= f) :=
  fun s hs => h s hs s hs

theorem value?_of_stored {o : Outcome α} (h : ∀ a ∈ o.stored, S a) : ∀ a ∈ o.value?, S a := by
  intro a ha
  exact h a (Outcome.value?_eq_some.1 ha).2

theorem ensures_attach {part : Run σ α} (h : part.Ensures Q R S) (constraint : String)
    (property : Option String) :
    Ensures Q R (fun o => ∀ a ∈ o, S a) (attach constraint part property) := by
  intro s hs
  obtain ⟨herrors, hstored, hstate⟩ := h s hs
  exact ⟨Diagnostic.leaves_wrap.2 herrors, value?_of_stored hstored, hstate⟩

theorem ensures_merge {part : Run σ α} (h : part.Ensures Q R S) :
    Ensures Q R (fun o => ∀ a ∈ o, S a) (merge part) := by
  intro s hs
  obtain ⟨herrors, hstored, hstate⟩ := h s hs
  exact ⟨herrors, value?_of_stored hstored, hstate⟩

/-- A state may be brought to another property for a part, and back. -/
theorem ensures_between {R' : σ → Prop} {run : Run σ α} {f f' : σ → σ} (hf : ∀ s, R s → R' (f s))
    (h : run.Ensures Q R' S) (hf' : ∀ s, R' s → R (f' s)) {k : Option α → β}
    (hk : ∀ o, (∀ a ∈ o, S a) → T (k o)) :
    Ensures Q R T (do
      modify f
      let a ← merge run
      modify f'
      return k a) := by
  intro s hs
  obtain ⟨herrors, hstored, hstate⟩ := h (f s) (hf s hs)
  refine ⟨?_, hk _ (value?_of_stored hstored), hf' _ hstate⟩
  show Leaves Q ([] ++ ((run (f s)).1.errors ++ ([] ++ [])))
  simpa using herrors

/-! ## Showing -/

theorem Shows.bind {x : Step σ α} (h : Shows Q R x) (f : α → Step σ β) : Shows Q R (x >>= f) := by
  intro s hs
  rw [bind_apply]
  exact fun hleaves => h s hs (Diagnostic.leaves_append.1 hleaves).1

/-- What a later step shows is shown, if the steps before it keep the property of the state. It has
to be shown for what they can give. -/
theorem shows_bind_gives {x : Step σ α} {f : α → Step σ β}
    (hx : Ensures (fun _ _ => True) R S x) (hf : ∀ a, x.Gives a → Shows Q R (f a)) :
    Shows Q R (x >>= f) := by
  intro s hs
  rw [bind_apply]
  exact fun hleaves => hf _ ⟨s, rfl⟩ _ (hx s hs).2.2 (Diagnostic.leaves_append.1 hleaves).2

theorem shows_bind {x : Step σ α} {f : α → Step σ β} (hx : Ensures (fun _ _ => True) R S x)
    (hf : ∀ a, Shows Q R (f a)) : Shows Q R (x >>= f) :=
  shows_bind_gives hx fun a _ => hf a

theorem shows_get_bind {f : σ → Step σ α} (h : ∀ s, R s → Shows Q R (f s)) :
    Shows Q R (get >>= f) :=
  fun s hs => h s hs s hs

theorem shows_between {R' : σ → Prop} {run : Run σ α} {f f' : σ → σ} (hf : ∀ s, R s → R' (f s))
    (h : run.Shows Q R') (k : Option α → β) :
    Shows Q R (do
      modify f
      let a ← merge run
      modify f'
      return k a) := by
  intro s hs
  show ¬ Leaves Q ([] ++ ((run (f s)).1.errors ++ ([] ++ [])))
  simpa using h (f s) (hf s hs)

theorem shows_attach {part : Run σ α} (h : part.Shows Q R) (constraint : String)
    (property : Option String) : Shows Q R (attach constraint part property) :=
  fun s hs hleaves => h s hs (Diagnostic.leaves_wrap.1 hleaves)

theorem shows_merge {part : Run σ α} (h : part.Shows Q R) : Shows Q R (merge part) := h

end Step

namespace Run

theorem ensures_ofStep {step : Step σ (Option α)}
    (h : step.Ensures Q R fun o => ∀ a ∈ o, S a) : Run.Ensures Q R S (ofStep step) := h

theorem ensures_ofNoted {x : Noted (Option α)} (h : x.Ensures Q fun o => ∀ a ∈ o, S a) :
    (ofNoted x : Run σ α).Ensures Q R S :=
  fun _ hs => ⟨h.errors, h.result, hs⟩

theorem ensures_failed {constraint reason : String} (h : Q constraint reason) :
    (failed (.of constraint reason) : Run σ α).Ensures Q R S :=
  fun _ hs => ⟨Diagnostic.leaves_of.2 h, by simp [failed, Outcome.ofError], hs⟩

theorem shows_ofStep {step : Step σ (Option α)} (h : step.Shows Q R) :
    Run.Shows Q R (ofStep step) := h

end Run

end DataSchema
