import DataSchema.Proofs.Agree

/-!
# Where errors are reported

`Proofs.Ensures` speaks of the leaves of errors and leaves the way to them out. Here the way counts:
a leaf lies at a path, which lists the properties of the diagnostics that it is a cause of.

**Flat diagnostics** join the path to a leaf by points (`LeavesAt.flat`).

**Reporting.** A step `Reports Q S` if each leaf of its errors satisfies `Q` with the path at which
it lies, and its result satisfies `S`. A sequence reports what its parts do. A part that is attached
under a property lies one step further (`Step.reports_attach`); one that is merged lies where it is.
-/

namespace DataSchema

/-! ## Leaves and their paths -/

namespace Diagnostic

/-- A leaf of a diagnostic, at the end of the properties on the way to it. -/
inductive LeafAt : Diagnostic → List String → Diagnostic → Prop
  | leaf {d : Diagnostic} (traces : d.traces = []) : LeafAt d d.property.toList d
  | trace {d cause leaf : Diagnostic} {path : List String} (mem : cause ∈ d.traces)
      (rest : LeafAt cause path leaf) : LeafAt d (d.property.toList ++ path) leaf

/-- Every leaf of the diagnostics satisfies a property of its constraint and its path. -/
def LeavesAt (Q : String → List String → Prop) (ds : List Diagnostic) : Prop :=
  ∀ d ∈ ds, ∀ {path : List String} {leaf : Diagnostic}, d.LeafAt path leaf → Q leaf.constraint path

variable {Q Q' : String → List String → Prop} {xs ys : List Diagnostic}

@[simp] theorem leavesAt_nil : LeavesAt Q [] := fun _ hd => nomatch hd

theorem leavesAt_append : LeavesAt Q (xs ++ ys) ↔ LeavesAt Q xs ∧ LeavesAt Q ys :=
  List.forall_mem_append

/-- A diagnostic without causes is a leaf itself. -/
theorem leavesAt_leaf {d : Diagnostic} (htraces : d.traces = [])
    (h : Q d.constraint d.property.toList) : LeavesAt Q [d] := by
  intro d' hd path leaf hleaf
  obtain rfl := List.mem_singleton.1 hd
  cases hleaf with
  | leaf => exact h
  | trace mem => exact absurd mem (htraces ▸ List.not_mem_nil)

/-- **Wrapping puts the property in front of the paths.** -/
theorem leavesAt_wrap {constraint : String} {property reason : Option String}
    (h : LeavesAt (fun c path => Q c (property.toList ++ path)) xs) :
    LeavesAt Q (Outcome.wrap constraint property reason xs) := by
  cases xs with
  | nil => exact leavesAt_nil
  | cons d rest =>
    intro d' hd path leaf hleaf
    obtain rfl := List.mem_singleton.1 hd
    cases hleaf with
    | leaf traces => cases traces
    | trace mem rest => exact h _ mem rest

/-! ## Flat diagnostics -/

/-- The steps of a path below a path, joined. -/
def joinSteps (start : Option String) (path : List String) : Option String :=
  path.foldl (fun joined step => joinPath joined (some step)) start

theorem joinSteps_append (start property : Option String) (path : List String) :
    joinSteps start (property.toList ++ path) = joinSteps (joinPath start property) path := by
  cases property <;> simp [joinSteps, joinPath]

mutual

theorem exists_leafAt_of_mem_flattenUnder (start : Option String) {flat : FlatDiagnostic} :
    ∀ d, flat ∈ flattenUnder start d → ∃ path leaf, d.LeafAt path leaf ∧
      flat = ⟨leaf.constraint, joinSteps start path, leaf.reason⟩
  | ⟨constraint, property, reason, []⟩, h => by
    obtain rfl := List.mem_singleton.1 h
    refine ⟨_, _, .leaf rfl, ?_⟩
    have hjoin := joinSteps_append start property []
    rw [List.append_nil] at hjoin
    rw [hjoin]
    rfl
  | ⟨constraint, property, reason, cause :: rest⟩, h => by
    obtain ⟨d, hd, path, leaf, hleaf, hflat⟩ :=
      exists_leafAt_of_mem_flattenAllUnder (joinPath start property) (cause :: rest) h
    refine ⟨_, leaf, .trace hd hleaf, ?_⟩
    rw [joinSteps_append]
    exact hflat

theorem exists_leafAt_of_mem_flattenAllUnder (start : Option String) {flat : FlatDiagnostic} :
    ∀ ds, flat ∈ flattenAllUnder start ds → ∃ d ∈ ds, ∃ path leaf, d.LeafAt path leaf ∧
      flat = ⟨leaf.constraint, joinSteps start path, leaf.reason⟩
  | d :: rest, h => by
    rw [flattenAllUnder] at h
    rcases List.mem_append.1 h with h | h
    · exact ⟨d, List.mem_cons_self, exists_leafAt_of_mem_flattenUnder start d h⟩
    · obtain ⟨d', hd', hleaf⟩ := exists_leafAt_of_mem_flattenAllUnder start rest h
      exact ⟨d', List.mem_cons_of_mem _ hd', hleaf⟩

end

/-- **A flat diagnostic is a leaf, and shows the path to it joined by points.** -/
theorem LeavesAt.flat (h : LeavesAt Q xs) {flat : FlatDiagnostic} (hflat : flat ∈ flattenAll xs) :
    ∃ path, flat.property = joinSteps none path ∧ Q flat.constraint path := by
  obtain ⟨d, hd, path, leaf, hleaf, rfl⟩ := exists_leafAt_of_mem_flattenAllUnder none xs hflat
  exact ⟨path, rfl, h d hd hleaf⟩

end Diagnostic

open Diagnostic (LeavesAt)

variable {σ α β : Type} {Q Q' : String → List String → Prop} {S : α → Prop} {T : β → Prop}

/-! ## Noted results -/

/-- The leaves of the errors satisfy one property with their paths, and the result another. -/
structure Noted.Reports (Q : String → List String → Prop) (S : α → Prop) (x : Noted α) : Prop where
  errors : LeavesAt Q x.errors
  result : S x.result

namespace Noted

theorem reports_pure {a : α} (h : S a) : (pure a : Noted α).Reports Q S :=
  ⟨Diagnostic.leavesAt_nil, h⟩

theorem Reports.bind {x : Noted α} {f : α → Noted β} (hx : x.Reports Q S)
    (hf : ∀ a, S a → (f a).Reports Q T) : (x >>= f).Reports Q T :=
  have hrest := hf _ hx.result
  ⟨Diagnostic.leavesAt_append.2 ⟨hx.errors, hrest.errors⟩, hrest.result⟩

theorem reports_error {d : Diagnostic} (htraces : d.traces = [])
    (h : Q d.constraint d.property.toList) : (error d).Reports Q fun _ => True :=
  ⟨Diagnostic.leavesAt_leaf htraces h, trivial⟩

end Noted

/-! ## Runs and steps -/

/-- From each state, the leaves of the errors satisfy one property with their paths, and the stored
value another. -/
def Run.Reports (Q : String → List String → Prop) (S : α → Prop) (run : Run σ α) : Prop :=
  ∀ s, LeavesAt Q (run s).1.errors ∧ ∀ a ∈ (run s).1.stored, S a

namespace Step

/-- From each state, the leaves of the errors satisfy one property with their paths, and the result
another. -/
def Reports (Q : String → List String → Prop) (S : α → Prop) (step : Step σ α) : Prop :=
  ∀ s, LeavesAt Q (step s).errors ∧ S (step s).result.1

theorem reports_pure {a : α} (h : S a) : Reports Q S (pure a : Step σ α) :=
  fun _ => ⟨Diagnostic.leavesAt_nil, h⟩

theorem reports_lift {x : Noted α} (h : x.Reports Q S) :
    Reports Q S (monadLift x : Step σ α) := by
  refine fun s => ⟨?_, h.result⟩
  show LeavesAt Q (x.errors ++ [])
  rw [List.append_nil]
  exact h.errors

theorem Reports.bind {x : Step σ α} {f : α → Step σ β} (hx : Reports Q S x)
    (hf : ∀ a, S a → Reports Q T (f a)) : Reports Q T (x >>= f) := by
  intro s
  obtain ⟨herrors, hresult⟩ := hx s
  obtain ⟨herrors', hresult'⟩ := hf _ hresult (x s).result.2
  rw [bind_apply]
  exact ⟨Diagnostic.leavesAt_append.2 ⟨herrors, herrors'⟩, hresult'⟩

theorem Reports.map {x : Step σ α} {f : α → β} (hx : Reports Q S x) (hf : ∀ a, S a → T (f a)) :
    Reports Q T (f <$> x) := by
  rw [← bind_pure_comp]
  exact hx.bind fun a ha => reports_pure (hf a ha)

theorem reports_attach {part : Run σ α} {property : Option String} (h : part.Reports Q' S)
    (hpath : ∀ c path, Q' c path → Q c (property.toList ++ path)) (constraint : String) :
    Reports Q (fun o => ∀ a ∈ o, S a) (attach constraint part property) := by
  intro s
  obtain ⟨herrors, hstored⟩ := h s
  refine ⟨Diagnostic.leavesAt_wrap fun d hd _ _ hleaf => hpath _ _ (herrors d hd hleaf), ?_⟩
  exact fun a ha => hstored a (Outcome.value?_eq_some.1 ha).2

theorem reports_merge {part : Run σ α} (h : part.Reports Q S) :
    Reports Q (fun o => ∀ a ∈ o, S a) (merge part) := by
  intro s
  obtain ⟨herrors, hstored⟩ := h s
  exact ⟨herrors, fun a ha => hstored a (Outcome.value?_eq_some.1 ha).2⟩

/-- What a part reports that is not noted makes no difference. -/
theorem reports_quietly (part : Run σ α) : Reports Q (fun _ => True) (quietly part) :=
  fun _ => ⟨Diagnostic.leavesAt_nil, trivial⟩

end Step

namespace Run

theorem reports_ofStep {step : Step σ (Option α)}
    (h : step.Reports Q fun o => ∀ a ∈ o, S a) : Run.Reports Q S (ofStep step) := h

theorem reports_ofNoted {x : Noted (Option α)} (h : x.Reports Q fun o => ∀ a ∈ o, S a) :
    (ofNoted x : Run σ α).Reports Q S :=
  fun _ => ⟨h.errors, h.result⟩

theorem reports_failed {d : Diagnostic} (htraces : d.traces = [])
    (h : Q d.constraint d.property.toList) : (failed d : Run σ α).Reports Q S :=
  fun _ => ⟨Diagnostic.leavesAt_leaf htraces h, fun _ ha => nomatch ha⟩

end Run

end DataSchema
