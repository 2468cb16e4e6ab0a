import DataSchema.Proofs.Compile.Built
import DataSchema.Proofs.Compile.Mapped

/-!
# Compiling in registries that are alike

What a raw schema compiles to depends on which definitions are being compiled, and not on which of
the others are pending and which are finished. Registries that differ no more than that are `Alike`.

**Theorem (`agree_compileWithin`).** From registries that are alike a raw schema compiles to the
same outcome, and each run leaves a registry that is alike to the one it started from.

**The invariant** (`Near`). Both runs keep alike to their first registries. A reference marks its
definition as being compiled, so what is nested in it keeps alike to the marked registries, and
giving the definition its state back returns to the first ones (`Alike.restored`), with or without
errors.
-/

namespace DataSchema

/-! ## Registries that are alike -/

namespace Registry

theorem paths_mark (r : Registry) (path : String) (state : DefinitionState) :
    (r.mark path state).paths = r.paths :=
  Dict.keys_modify r.entries path fun e => { e with state }

theorem get?_entries_mark (r : Registry) (path : String) (state : DefinitionState)
    (other : String) :
    (r.mark path state).entries.get? other =
      if path = other then (r.entries.get? other).map fun e => { e with state }
      else r.entries.get? other :=
  Dict.get?_modify r.entries path (fun e => { e with state }) other

theorem state?_mark (r : Registry) (path : String) (state : DefinitionState) (other : String) :
    (r.mark path state).state? other =
      if path = other then (r.state? other).map fun _ => state else r.state? other := by
  rw [state?, state?, get?_entries_mark]
  split
  · rw [Option.map_map, Option.map_map]
    rfl
  · rfl

theorem raw?_mark (r : Registry) (path : String) (state : DefinitionState) (other : String) :
    (r.mark path state).raw? other = r.raw? other := by
  rw [← raw?_unmarked, unmarked_mark, raw?_unmarked]

/-- The definition at a path is being compiled. -/
def Busy (r : Registry) (path : String) : Prop := r.state? path = some .compiling

instance (r : Registry) (path : String) : Decidable (r.Busy path) :=
  inferInstanceAs (Decidable (r.state? path = some .compiling))

theorem busy_mark {r : Registry} {path other : String} {state : DefinitionState} :
    (r.mark path state).Busy other ↔
      if path = other then state = .compiling ∧ (r.raw? path).isSome else r.Busy other := by
  rw [Busy, state?_mark]
  by_cases h : path = other
  · subst h
    rw [if_pos rfl, if_pos rfl]
    simp only [state?, raw?, Option.isSome_map]
    cases r.entries.get? path <;> simp
  · rw [if_neg h, if_neg h]
    exact Iff.rfl

theorem not_busy_unmarked (r : Registry) (path : String) : ¬ r.unmarked.Busy path := by
  rw [Busy, state?, get?_entries_unmarked, Option.map_map]
  cases r.entries.get? path <;> simp [Entry.unmarked]

theorem unmarked_unmarked (r : Registry) : r.unmarked.unmarked = r.unmarked := by
  simp only [unmarked, List.map_map]
  rfl

/-- The same definitions, of which the same are being compiled. -/
structure Alike (r r' : Registry) : Prop where
  unmarked : r.unmarked = r'.unmarked
  busy : ∀ path, r.Busy path ↔ r'.Busy path

variable {r r' s : Registry}

theorem Alike.refl (r : Registry) : r.Alike r := ⟨rfl, fun _ => Iff.rfl⟩

theorem Alike.symm (h : r.Alike r') : r'.Alike r :=
  ⟨h.unmarked.symm, fun path => (h.busy path).symm⟩

theorem Alike.trans (h : r.Alike r') (h' : r'.Alike s) : r.Alike s :=
  ⟨h.unmarked.trans h'.unmarked, fun path => (h.busy path).trans (h'.busy path)⟩

theorem raw?_congr (h : r.unmarked = r'.unmarked) (path : String) : r.raw? path = r'.raw? path := by
  rw [← raw?_unmarked, h, raw?_unmarked]

theorem resolve_congr (h : r.unmarked = r'.unmarked) (name : String) :
    r.resolve name = r'.resolve name := by
  rw [← resolve_unmarked, h, resolve_unmarked]

theorem Alike.mark (h : r.Alike r') (path : String) {state state' : DefinitionState}
    (hstate : state = .compiling ↔ state' = .compiling) :
    (r.mark path state).Alike (r'.mark path state') where
  unmarked := by
    rw [unmarked_mark, unmarked_mark]
    exact h.unmarked
  busy other := by
    rw [busy_mark, busy_mark, raw?_congr h.unmarked, hstate]
    by_cases hpath : path = other
    · rw [if_pos hpath, if_pos hpath]
    · rw [if_neg hpath, if_neg hpath]
      exact h.busy other

/-- Whether a definition is pending or finished makes no difference. -/
theorem alike_mark {path : String} {state : DefinitionState} (hfree : ¬ r.Busy path)
    (hstate : state ≠ .compiling) : (r.mark path state).Alike r where
  unmarked := unmarked_mark r path state
  busy other := by
    rw [busy_mark]
    by_cases hpath : path = other
    · subst hpath
      rw [if_pos rfl]
      exact ⟨fun hs => absurd hs.1 hstate, fun hr => absurd hr hfree⟩
    · rw [if_neg hpath]

/-- A definition that was not being compiled, and is not afterwards, leaves no trace. -/
theorem Alike.restored {path : String} {state : DefinitionState}
    (h : s.Alike (r.mark path .compiling)) (hfree : ¬ r.Busy path) (hstate : state ≠ .compiling) :
    (s.mark path state).Alike r where
  unmarked := by
    rw [unmarked_mark, h.unmarked, unmarked_mark]
  busy other := by
    rw [busy_mark]
    by_cases hpath : path = other
    · subst hpath
      rw [if_pos rfl]
      exact ⟨fun hs => absurd hs.1 hstate, fun hr => absurd hr hfree⟩
    · rw [if_neg hpath, h.busy, busy_mark, if_neg hpath]

end Registry

namespace Compile

open Step

variable {view : View} {ctx ctx' : Context} {raw raw' : RawSchema} {r r' s t : Registry}

/-! ## References -/

/-- Registries that are alike to two registries. -/
def Near (r r' s t : Registry) : Prop := s.Alike r ∧ t.Alike r'

theorem target?_eq (r : Registry) (name : String) :
    target? r name = (r.resolve name).bind fun path =>
      (r.raw? path).bind fun raw => (r.state? path).map fun state => (path, raw, state) := by
  unfold target?
  cases r.resolve name with
  | none => rfl
  | some path => cases hraw : r.raw? path with
    | none => simp [hraw]
    | some raw => cases hstate : r.state? path <;> simp [hraw, hstate]

theorem exists_target? {name path : String} {raw : RawSchema} (hpath : r.resolve name = some path)
    (hraw : r.raw? path = some raw) :
    ∃ state, r.state? path = some state ∧ target? r name = some (path, raw, state) := by
  obtain ⟨e, he, -⟩ := Option.map_eq_some_iff.1 hraw
  have hstate : r.state? path = some e.state := by rw [Registry.state?, he]; rfl
  refine ⟨e.state, hstate, ?_⟩
  rw [target?_eq, hpath, Option.bind_some, hraw, Option.bind_some, hstate, Option.map_some]

/-- What a name stands for, with a definition that is not being compiled. -/
structure Free (r : Registry) (name path : String) (target : RawSchema) : Prop where
  resolved : r.resolve name = some path
  found : r.raw? path = some target
  free : ¬ r.Busy path

/-- A name stands for definitions at one path, which are being compiled in both registries or in
neither. -/
structure Counterparts (r r' : Registry) (name path : String) (target target' : RawSchema) :
    Prop where
  resolved : r.resolve name = some path
  found : r.raw? path = some target
  resolved' : r'.resolve name = some path
  found' : r'.raw? path = some target'
  busy : r.Busy path ↔ r'.Busy path

/-- What a name stands for in a registry that is alike. -/
theorem exists_target?_alike (h : s.Alike r) {name path : String} {target : RawSchema}
    (hpath : r.resolve name = some path) (hfound : r.raw? path = some target) :
    ∃ state, target? s name = some (path, target, state) ∧ (state = .compiling ↔ r.Busy path) := by
  obtain ⟨state, hstate, htarget⟩ := exists_target? (r := s)
    ((Registry.resolve_congr h.unmarked name).trans hpath)
    ((Registry.raw?_congr h.unmarked path).trans hfound)
  refine ⟨state, htarget, ?_⟩
  rw [← h.busy, Registry.Busy, hstate, Option.some.injEq]

theorem target?_eq_none_alike (h : s.Alike r) {name : String} (hnone : target? r name = none) :
    target? s name = none := by
  cases hs : target? s name with
  | none => rfl
  | some found =>
    obtain ⟨path, target, state⟩ := found
    obtain ⟨hpath, hraw, -⟩ := target?_eq_some hs
    obtain ⟨_, htarget, -⟩ := exists_target?_alike h.symm hpath hraw
    rw [hnone] at htarget
    cases htarget

/-- Definitions in place of references compile to the same if they do while they are marked. -/
theorem agree_inlined {path : String} {state state' : DefinitionState} {merged merged' : RawSchema}
    (hstate : state ≠ .compiling) (hstate' : state' ≠ .compiling) (hfree : ¬ r.Busy path)
    (hfree' : ¬ r'.Busy path)
    (h : NestedAgree view (Near (r.mark path .compiling) (r'.mark path .compiling)) ctx ctx'
      merged merged') :
    Run.Agree view (Near r r') (inlined ctx path state merged)
      (inlined ctx' path state' merged') := by
  intro s t hst
  have hmarked : Near (r.mark path .compiling) (r'.mark path .compiling)
      (s.mark path .compiling) (t.mark path .compiling) :=
    ⟨hst.1.mark path Iff.rfl, hst.2.mark path Iff.rfl⟩
  obtain ⟨hagree, hu, hv⟩ := h _ _ hmarked
  exact ⟨hagree, hu.restored hfree hstate, hv.restored hfree' hstate'⟩

/-- References come to the same if their names stand for nothing in both registries, or for
counterparts that come to the same: as recursive references while they are being
compiled, and else with what is overridden, while they are marked. -/
theorem agree_reference_counterparts (href : raw'.get? "$ref" = raw.get? "$ref")
    (h : ∀ name, raw.get? "$ref" = some (.str name) → name ≠ "" →
      target? r name = none ∧ target? r' name = none ∨
      ∃ path target target', Counterparts r r' name path target target' ∧
        (r.Busy path →
          recursive name target (overrides raw) = recursive name target' (overrides raw')) ∧
        (¬ r.Busy path →
          NestedAgree view (Near (r.mark path .compiling) (r'.mark path .compiling)) ctx ctx'
            (inherit target (overrides raw)) (inherit target' (overrides raw')))) :
    Agree view (Near r r') (reference ctx raw) (reference ctx' raw') := by
  unfold reference
  rw [href]
  split
  · next name hname =>
    split
    · exact (agree_noteError _).bind fun _ => agree_pure _
    · next hne =>
      refine agree_get_bind fun s t hst => ?_
      obtain ⟨hnone, hnone'⟩ | ⟨path, target, target', hboth, hrecursive, hinlined⟩ :=
        h name hname hne
      · rw [target?_eq_none_alike hst.1 hnone, target?_eq_none_alike hst.2 hnone']
        exact ((agree_noteError _).bind fun _ => agree_pure _) s t hst
      · obtain ⟨state, hs, hstate⟩ := exists_target?_alike hst.1 hboth.resolved hboth.found
        obtain ⟨state', ht, hstate'⟩ := exists_target?_alike hst.2 hboth.resolved' hboth.found'
        rw [hs, ht]
        by_cases hbusy : r.Busy path
        · simp only [hstate.2 hbusy, hstate'.2 (hboth.busy.1 hbusy), if_true, hrecursive hbusy]
          exact agree_lift _ s t hst
        · have hbusy' : ¬ r'.Busy path := fun hbusy' => hbusy (hboth.busy.2 hbusy')
          have hc : state ≠ .compiling := fun heq => hbusy (hstate.1 heq)
          have hc' : state' ≠ .compiling := fun heq => hbusy' (hstate'.1 heq)
          simp only [hc, hc', if_false]
          exact agree_attach (agree_inlined hc hc' hbusy hbusy' (hinlined hbusy)) _ _ s t hst
  · exact (agree_noteError _).bind fun _ => agree_pure _

/-- References compile to the same in registries that are alike if their definitions do while they
are marked as being compiled. -/
theorem agree_reference (h : r.Alike r')
    (hn : ∀ {name path target}, raw.get? "$ref" = some (.str name) → Free r name path target →
      NestedAgree view (Near (r.mark path .compiling) (r'.mark path .compiling)) ctx ctx'
        (inherit target (overrides raw)) (inherit target (overrides raw))) :
    Agree view (Near r r') (reference ctx raw) (reference ctx' raw) := by
  refine agree_reference_counterparts rfl fun name hname _ => ?_
  cases htarget : target? r name with
  | none => exact .inl ⟨rfl, target?_eq_none_alike h.symm htarget⟩
  | some found =>
    obtain ⟨path, target, state⟩ := found
    obtain ⟨hpath, hraw, -⟩ := target?_eq_some htarget
    have hboth : Counterparts r r' name path target target :=
      { resolved := hpath
        found := hraw
        resolved' := Registry.resolve_congr h.unmarked name ▸ hpath
        found' := Registry.raw?_congr h.unmarked path ▸ hraw
        busy := h.busy path }
    exact .inr ⟨path, target, target, hboth, fun _ => rfl, fun hfree =>
      hn hname ⟨hpath, hraw, hfree⟩⟩

/-! ## One raw schema, compiled twice -/

theorem paired_self {A : RawSchema → RawSchema → Prop} {j : Json}
    (h : ∀ f, normalize j = .ok f → A f f) : Paired A j j := by
  cases hj : normalize j with
  | error d => exact .same hj
  | ok f => exact .fields hj hj (h f hj)

/-- A raw schema is similar to itself if its schemas correspond to themselves, as properties too. -/
theorem similar_self {A : RawSchema → RawSchema → Prop}
    (h : ∀ f ∈ raw.children, ∀ required, A (asProperty required f) (asProperty required f)) :
    Similar A raw raw :=
  similar_mapped (fun _ => rfl) (resemble_mapChildren_id raw) (fun f hf => h f hf false)
    fun _ _ _ _ _ f hf _ required _ => ⟨h f hf required, rfl⟩

/-- **The outcome is the same in registries that are alike**, and they are alike to themselves
afterwards. -/
theorem agree_compileWithin (options : CompilerOptions) (n : Nat) (h : r.Alike r')
    (raw : RawSchema) :
    Run.Agree .whole (Near r r') ((Compiler.builtin options).compileWithin n raw)
      ((Compiler.builtin options).compileWithin n raw) := by
  induction n generalizing r r' raw with
  | zero => exact Run.agree_failed _
  | succ n ih =>
    rw [Compiler.compileWithin_succ]
    refine agree_compileIn (similar_self fun f _ required => ih h _) fun _ => ?_
    exact agree_reference h fun _ _ => ih (h.mark _ Iff.rfl) _

/-! ## Definitions -/

/-- Registries that are alike, with the definitions of another. -/
def Same (r₀ s t : Registry) : Prop := s.Alike t ∧ s.unmarked = r₀.unmarked

variable {r₀ : Registry}

/-- Runs that keep near to the registries they start from keep them alike. -/
theorem agree_same {run run' : Run Schema}
    (h : ∀ r r', Same r₀ r r' → Run.Agree view (Near r r') run run') :
    Run.Agree view (Same r₀) run run' := by
  intro s t hst
  obtain ⟨hagree, hu, hv⟩ := h s t hst s t ⟨.refl s, .refl t⟩
  exact ⟨hagree, (hu.trans hst.1).trans hv.symm, hu.unmarked.trans hst.2⟩

theorem Same.mark {s t : Registry} (h : Same r₀ s t) (path : String) (state : DefinitionState) :
    Same r₀ (s.mark path state) (t.mark path state) :=
  ⟨h.1.mark path Iff.rfl, by rw [Registry.unmarked_mark]; exact h.2⟩

theorem agree_definition {path : String}
    (hn : ∀ raw, r₀.raw? path = some raw → NestedAgree view (Same r₀) ctx ctx' raw raw) :
    Agree view (Same r₀) (definition ctx path) (definition ctx' path) := by
  unfold definition
  refine agree_get_bind fun s t hst => ?_
  rw [← Registry.raw?_congr hst.1.unmarked, Registry.raw?_congr hst.2]
  cases hraw : r₀.raw? path with
  | none => exact ((agree_noteError _).bind fun _ => agree_pure _) s t hst
  | some raw =>
    exact ((agree_lift _).bind fun id =>
      (agree_modify fun _ _ h => h.mark path .compiling).bind fun _ =>
      (agree_merge (hn raw hraw)).bind fun body =>
      (agree_modify fun _ _ h => h.mark path .finished).bind fun _ => agree_pure _) s t hst

end Compile

end DataSchema
