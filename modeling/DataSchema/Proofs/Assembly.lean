import DataSchema.Proofs.Ensures
import DataSchema.Proofs.Reports

/-!
# How outcomes are put together

An outcome starts empty. Diagnostics are added to it, and the diagnostics of parts are taken over as
they are (`merge`) or wrapped into one under a property (`attach`). An `Assembly` lists such calls;
the parts are assemblies themselves.

**Leaves.** `Diagnostic.located` lists the leaves of a diagnostic in order, each with the properties
on the way to it (`mem_located_iff`), and flattening shows them as they stand there
(`flattenAll_eq_map`): nothing is lost, repeated or moved. The path that is shown joins the
properties that are not empty by points (`Diagnostic.dotted`).

**Theorem (`flat_assembled`).** Flattening comes after putting together as well as before: a part
that is merged adds its flat diagnostics as they are, and one that is attached adds them with the
property in front of their paths. So the flat diagnostics of an assembly are the leaves of the
diagnostics that were ever added, in that order, with the properties above and at them.
-/

namespace DataSchema

/-! ## Paths -/

namespace Diagnostic

/-- The steps of a path that are not empty, joined by points; without such steps there is no path. -/
def dotted (path : List String) : Option String :=
  match path.filter (· ≠ "") with
  | [] => none
  | step :: rest => some (".".intercalate (step :: rest))

theorem joinSteps_some (joined : String) (path : List String) :
    joinSteps (some joined) path = some (".".intercalate (joined :: path.filter (· ≠ ""))) := by
  induction path generalizing joined with
  | nil => exact congrArg some (String.intercalate_singleton ..).symm
  | cons step rest ih =>
    by_cases hstep : step = ""
    · subst hstep
      exact ih joined
    · have hjoin : joinPath (some joined) (some step) = some (joined ++ "." ++ step) := by
        simp [joinPath]
      rw [joinSteps, List.foldl_cons, hjoin, ← joinSteps, ih, List.filter_cons_of_pos (by simpa)]
      rfl

theorem joinSteps_none (path : List String) : joinSteps none path = dotted path := by
  induction path with
  | nil => rfl
  | cons step rest ih =>
    by_cases hstep : step = ""
    · subst hstep
      exact ih
    · have hjoin : joinPath none (some step) = some step := by simp [joinPath]
      rw [joinSteps, List.foldl_cons, hjoin, ← joinSteps, joinSteps_some, dotted,
        List.filter_cons_of_pos (by simpa)]

theorem dotted_cons_of_ne {step : String} (h : step ≠ "") (path : List String) :
    dotted (step :: path) = some (match dotted path with
      | none => step
      | some joined => step ++ "." ++ joined) := by
  rw [dotted, dotted, List.filter_cons_of_pos (by simpa)]
  cases path.filter (· ≠ "") with
  | nil => exact congrArg some (String.intercalate_singleton ..)
  | cons next rest => exact congrArg some (String.intercalate_cons_cons ..)

end Diagnostic

/-- A flat diagnostic of a part, seen from the whole. The property of the part comes first in the
path, and is the path if there was none; a property that is absent or empty adds nothing. -/
def FlatDiagnostic.under (property : Option String) (flat : FlatDiagnostic) : FlatDiagnostic :=
  match property with
  | none | some "" => flat
  | some step => { flat with
      property := some (match flat.property with
        | none => step
        | some path => step ++ "." ++ path) }

/-! ## Leaves with their paths -/

namespace Diagnostic

/-- Leaves one step further from the root, if there is a step. -/
def under (property : Option String) (leaves : List (List String × Diagnostic)) :
    List (List String × Diagnostic) :=
  leaves.map fun leaf => (property.toList ++ leaf.1, leaf.2)

mutual

/-- The leaves of a diagnostic in order, each with the properties on the way to it, its own last. -/
def located : Diagnostic → List (List String × Diagnostic)
  | ⟨constraint, property, reason, []⟩ =>
    [(property.toList, ⟨constraint, property, reason, []⟩)]
  | ⟨_, property, _, cause :: rest⟩ => under property (locatedAll (cause :: rest))

def locatedAll : List Diagnostic → List (List String × Diagnostic)
  | [] => []
  | d :: rest => d.located ++ locatedAll rest

end

theorem locatedAll_append (xs ys : List Diagnostic) :
    locatedAll (xs ++ ys) = locatedAll xs ++ locatedAll ys := by
  induction xs with
  | nil => rfl
  | cons d rest ih => rw [List.cons_append, locatedAll, locatedAll, ih, List.append_assoc]

mutual

/-- **The list holds the leaves of the diagnostic, at their paths.** -/
theorem mem_located_iff {path : List String} {leaf : Diagnostic} :
    ∀ d : Diagnostic, (path, leaf) ∈ d.located ↔ d.LeafAt path leaf
  | ⟨constraint, property, reason, []⟩ => by
    rw [located, List.mem_singleton, Prod.mk.injEq]
    constructor
    · rintro ⟨rfl, rfl⟩
      exact .leaf rfl
    · intro h
      cases h with
      | leaf => exact ⟨rfl, rfl⟩
      | trace mem => cases mem
  | ⟨constraint, property, reason, cause :: rest⟩ => by
    rw [located, under, List.mem_map]
    constructor
    · rintro ⟨⟨path', leaf'⟩, hmem, heq⟩
      obtain ⟨rfl, rfl⟩ := Prod.mk.inj heq
      obtain ⟨d, hd, hleaf⟩ := (mem_locatedAll_iff (cause :: rest)).1 hmem
      exact .trace hd hleaf
    · intro h
      cases h with
      | leaf traces => cases traces
      | trace mem hleaf =>
        exact ⟨_, (mem_locatedAll_iff (cause :: rest)).2 ⟨_, mem, hleaf⟩, rfl⟩

theorem mem_locatedAll_iff {path : List String} {leaf : Diagnostic} :
    ∀ ds : List Diagnostic, (path, leaf) ∈ locatedAll ds ↔ ∃ d ∈ ds, d.LeafAt path leaf
  | [] => by simp [locatedAll]
  | d :: rest => by
    rw [locatedAll, List.mem_append, mem_located_iff d, mem_locatedAll_iff rest]
    simp

end

/-- Wrapping puts the property in front of the paths to the leaves, and leaves no leaf out. -/
theorem locatedAll_wrap (constraint : String) (property reason : Option String)
    (causes : List Diagnostic) :
    locatedAll (Outcome.wrap constraint property reason causes) =
      under property (locatedAll causes) := by
  cases causes with
  | nil => rfl
  | cons cause rest => exact List.append_nil _

/-- A leaf with the path to it, as flattening below a path shows it. -/
def shownUnder (start : Option String) (leaf : List String × Diagnostic) : FlatDiagnostic :=
  ⟨leaf.2.constraint, joinSteps start leaf.1, leaf.2.reason⟩

theorem map_shownUnder_under (start property : Option String)
    (leaves : List (List String × Diagnostic)) :
    (under property leaves).map (shownUnder start) =
      leaves.map (shownUnder (joinPath start property)) := by
  rw [under, List.map_map]
  refine List.map_congr_left fun leaf _ => ?_
  simp only [Function.comp_apply, shownUnder, joinSteps_append]

mutual

theorem flattenUnder_eq_map (start : Option String) :
    ∀ d, flattenUnder start d = d.located.map (shownUnder start)
  | ⟨constraint, property, reason, []⟩ => by
    have hjoin : joinSteps start property.toList = joinPath start property := by
      have happend := joinSteps_append start property []
      rwa [List.append_nil] at happend
    simp [flattenUnder, located, shownUnder, hjoin]
  | ⟨constraint, property, reason, cause :: rest⟩ => by
    rw [located, map_shownUnder_under]
    exact flattenAllUnder_eq_map (joinPath start property) (cause :: rest)

theorem flattenAllUnder_eq_map (start : Option String) :
    ∀ ds, flattenAllUnder start ds = (locatedAll ds).map (shownUnder start)
  | [] => rfl
  | d :: rest => by
    rw [flattenAllUnder, locatedAll, List.map_append, flattenUnder_eq_map start d,
      flattenAllUnder_eq_map start rest]

end

/-- A leaf with the path to it joined by points. -/
def shown (leaf : List String × Diagnostic) : FlatDiagnostic :=
  ⟨leaf.2.constraint, dotted leaf.1, leaf.2.reason⟩

/-- **Flattening shows every leaf, in order, with the path to it.** -/
theorem flattenAll_eq_map (ds : List Diagnostic) : flattenAll ds = (locatedAll ds).map shown := by
  rw [flattenAll, flattenAllUnder_eq_map]
  refine List.map_congr_left fun leaf _ => ?_
  rw [shownUnder, shown, joinSteps_none]

/-- A leaf one step further from the root shows the step in front of its path. -/
theorem map_shown_under (property : Option String) (leaves : List (List String × Diagnostic)) :
    (under property leaves).map shown = (leaves.map shown).map (·.under property) := by
  rw [under, List.map_map, List.map_map]
  refine List.map_congr_left fun leaf _ => ?_
  cases property with
  | none => rfl
  | some step =>
    by_cases hstep : step = ""
    · subst hstep
      rfl
    · simp [shown, FlatDiagnostic.under, dotted_cons_of_ne hstep]

theorem flattenAll_append (xs ys : List Diagnostic) :
    flattenAll (xs ++ ys) = flattenAll xs ++ flattenAll ys :=
  flattenAllUnder_append none xs ys

theorem flattenAll_wrap (constraint : String) (property reason : Option String)
    (causes : List Diagnostic) :
    flattenAll (Outcome.wrap constraint property reason causes) =
      (flattenAll causes).map (·.under property) := by
  rw [flattenAll_eq_map, locatedAll_wrap, map_shown_under, ← flattenAll_eq_map]

end Diagnostic

/-! ## Assemblies -/

/-- Whether a diagnostic is an error or a warning. -/
inductive Severity where
  | error
  | warning
deriving DecidableEq

/-- Calls that put an outcome together, in their order. -/
inductive Assembly : Type → Type 1 where
  | empty {α : Type} : Assembly α
  | setValue {α : Type} (front : Assembly α) (value : α) : Assembly α
  | clearValue {α : Type} (front : Assembly α) : Assembly α
  | map {α β : Type} (front : Assembly α) (f : α → β) : Assembly β
  | add {α : Type} (front : Assembly α) (severity : Severity) (d : Diagnostic) : Assembly α
  | merge {α β : Type} (front : Assembly α) (part : Assembly β) : Assembly α
  | attach {α β : Type} (front : Assembly α) (constraint : String) (part : Assembly β)
      (property reason : Option String) : Assembly α

namespace Outcome

variable {α β : Type}

/-- The diagnostics of one severity. -/
def diagnostics (severity : Severity) (o : Outcome α) : List Diagnostic :=
  match severity with
  | .error => o.errors
  | .warning => o.warnings

def add (severity : Severity) (o : Outcome α) (d : Diagnostic) : Outcome α :=
  match severity with
  | .error => o.addError d
  | .warning => o.addWarning d

theorem diagnostics_add (severity added : Severity) (o : Outcome α) (d : Diagnostic) :
    (o.add added d).diagnostics severity =
      o.diagnostics severity ++ if added = severity then [d] else [] := by
  cases severity <;> cases added <;> simp [add, diagnostics, addError, addWarning]

theorem diagnostics_merge (severity : Severity) (o : Outcome α) (part : Outcome β) :
    (o.merge part).diagnostics severity =
      o.diagnostics severity ++ part.diagnostics severity := by
  cases severity <;> rfl

theorem diagnostics_attach (severity : Severity) (o : Outcome α) (constraint : String)
    (part : Outcome β) (property reason : Option String) :
    (o.attach constraint part property reason).diagnostics severity =
      o.diagnostics severity ++ wrap constraint property reason (part.diagnostics severity) := by
  cases severity <;> rfl

end Outcome

namespace Assembly

variable {α β : Type}

/-- The outcome after the calls. -/
def outcome {α : Type} : Assembly α → Outcome α
  | .empty => .empty
  | .setValue front value => front.outcome.setValue value
  | .clearValue front => front.outcome.clearValue
  | .map front f => front.outcome.map f
  | .add front severity d => front.outcome.add severity d
  | .merge front part => front.outcome.merge part.outcome
  | .attach front constraint part property reason =>
    front.outcome.attach constraint part.outcome property reason

/-- The leaves of all diagnostics that the calls add, in their order. Each has the properties on the
way to it: those under which parts are attached, and those within the diagnostic. -/
def leaves {α : Type} (severity : Severity) : Assembly α → List (List String × Diagnostic)
  | .empty => []
  | .setValue front _ => front.leaves severity
  | .clearValue front => front.leaves severity
  | .map front _ => front.leaves severity
  | .add front added d =>
    front.leaves severity ++ if added = severity then d.located else []
  | .merge front part => front.leaves severity ++ part.leaves severity
  | .attach front _ part property _ =>
    front.leaves severity ++ Diagnostic.under property (part.leaves severity)

/-- **The leaves of the outcome are those of the diagnostics that were added.** -/
theorem locatedAll_outcome (severity : Severity) (a : Assembly α) :
    Diagnostic.locatedAll (a.outcome.diagnostics severity) = a.leaves severity := by
  induction a with
  | empty => cases severity <;> rfl
  | setValue front value ih => cases severity <;> exact ih
  | clearValue front ih => cases severity <;> exact ih
  | map front f ih => cases severity <;> exact ih
  | add front added d ih =>
    rw [outcome, Outcome.diagnostics_add, Diagnostic.locatedAll_append, ih, leaves]
    by_cases h : added = severity
    · simp [h, Diagnostic.locatedAll]
    · simp [h, Diagnostic.locatedAll]
  | merge front part ih ihPart =>
    rw [outcome, Outcome.diagnostics_merge, Diagnostic.locatedAll_append, ih, ihPart, leaves]
  | attach front constraint part property reason ih ihPart =>
    rw [outcome, Outcome.diagnostics_attach, Diagnostic.locatedAll_append,
      Diagnostic.locatedAll_wrap, ih, ihPart, leaves]

end Assembly

namespace Outcome

variable {α β : Type}

/-- **Putting together and flattening commute.** What is attached under a property comes with the
property in front of its paths, and what is merged comes as it is. After any calls the flat
diagnostics are the leaves of those that were added, in order, and show the steps to them. -/
theorem flat_assembled :
    (∀ (o : Outcome α) (constraint : String) (part : Outcome β) (property reason : Option String),
      (o.attach constraint part property reason).flatErrors =
          o.flatErrors ++ part.flatErrors.map (·.under property) ∧
        (o.attach constraint part property reason).flatWarnings =
          o.flatWarnings ++ part.flatWarnings.map (·.under property)) ∧
    (∀ (o : Outcome α) (part : Outcome β),
      (o.merge part).flatErrors = o.flatErrors ++ part.flatErrors ∧
        (o.merge part).flatWarnings = o.flatWarnings ++ part.flatWarnings) ∧
    ∀ a : Assembly α,
      a.outcome.flatErrors = (a.leaves .error).map Diagnostic.shown ∧
        a.outcome.flatWarnings = (a.leaves .warning).map Diagnostic.shown := by
  refine ⟨fun o constraint part property reason => ⟨?_, ?_⟩, fun o part => ⟨?_, ?_⟩,
    fun a => ⟨?_, ?_⟩⟩
  · exact (Diagnostic.flattenAll_append _ _).trans
      (congrArg (o.flatErrors ++ ·) (Diagnostic.flattenAll_wrap ..))
  · exact (Diagnostic.flattenAll_append _ _).trans
      (congrArg (o.flatWarnings ++ ·) (Diagnostic.flattenAll_wrap ..))
  · exact Diagnostic.flattenAll_append _ _
  · exact Diagnostic.flattenAll_append _ _
  · rw [← a.locatedAll_outcome, ← Diagnostic.flattenAll_eq_map]
    rfl
  · rw [← a.locatedAll_outcome, ← Diagnostic.flattenAll_eq_map]
    rfl

example :
    let name : Outcome Unit := .ofError (.of "required" "missing")
    let child : Outcome Unit := Outcome.empty.attach "properties" name (some "name") none
    let children : Outcome Unit := Outcome.empty.attach "items" child (some "0") none
    ((Outcome.empty : Outcome Unit).attach "properties" children (some "children")
      none).flatErrors = [⟨"required", some "children.0.name", "missing"⟩] := by
  decide

end Outcome

end DataSchema
