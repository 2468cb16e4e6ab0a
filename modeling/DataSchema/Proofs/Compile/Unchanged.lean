import DataSchema.Proofs.Compile.Ensures

/-!
# What compiling leaves behind

Compiling a node changes the registry only for the time it takes: a definition that is compiled in
place of a reference is marked meanwhile, and has its state back afterwards.

**Theorem (`registry_unchanged`).** Whatever is registered, whatever is compiled and whatever comes
of it, the registry is afterwards what it was: the same paths, behind each the same raw schema, the
same id and the same state, and the same ids.

`Registry.Alike` says less: it does not tell what is pending from what is finished. That is enough
for what a node compiles to, but not for what is left behind.

**The invariant.** While a definition is compiled in place of a reference, the registry is what it was
with the definition marked. So the definition has its own state back, and no other has changed
(`Unchanged.restored`).
-/

namespace DataSchema

namespace Registry

variable {r s t : Registry} {path : String} {state : DefinitionState}

/-- The same definitions as in another registry, in the same states, and the same ids. -/
structure Unchanged (s r : Registry) : Prop where
  paths : s.paths = r.paths
  entry : ∀ path, s.entries.get? path = r.entries.get? path
  ids : s.ids = r.ids

theorem Unchanged.refl (r : Registry) : r.Unchanged r := ⟨rfl, fun _ => rfl, rfl⟩

theorem Unchanged.trans (h : t.Unchanged s) (h' : s.Unchanged r) : t.Unchanged r where
  paths := h.paths.trans h'.paths
  entry path := (h.entry path).trans (h'.entry path)
  ids := h.ids.trans h'.ids

theorem Unchanged.mark (h : s.Unchanged r) (path : String) (state : DefinitionState) :
    (s.mark path state).Unchanged (r.mark path state) where
  paths := by rw [paths_mark, paths_mark, h.paths]
  entry other := by rw [get?_entries_mark, get?_entries_mark, h.entry]
  ids := h.ids

/-- A definition that is marked twice, at last with the state it had at first, is what it was. -/
theorem unchanged_mark_mark (hstate : r.state? path = some state) (between : DefinitionState) :
    ((r.mark path between).mark path state).Unchanged r where
  paths := by rw [paths_mark, paths_mark]
  entry other := by
    rw [get?_entries_mark, get?_entries_mark]
    by_cases hpath : path = other
    · subst hpath
      obtain ⟨e, he, rfl⟩ := Option.map_eq_some_iff.1 hstate
      rw [if_pos rfl, if_pos rfl, he]
      rfl
    · rw [if_neg hpath, if_neg hpath]
  ids := rfl

theorem Unchanged.restored {between : DefinitionState} (h : t.Unchanged (r.mark path between))
    (hstate : r.state? path = some state) : (t.mark path state).Unchanged r :=
  (h.mark path state).trans (unchanged_mark_mark hstate between)

theorem Unchanged.state? (h : s.Unchanged r) (path : String) : s.state? path = r.state? path := by
  rw [Registry.state?, h.entry, Registry.state?]

end Registry

namespace Compile

open Step

variable {ctx : Context} {raw merged : RawSchema} {r : Registry} {path : String}
  {state : DefinitionState}

/-- A run that starts in the registry, or one that looks the same, leaves it unchanged. -/
def LeavesUnchanged (r : Registry) (run : Run Schema) : Prop :=
  Run.Ensures (fun _ _ => True) (·.Unchanged r) (Schema.Typed fun _ => True) run

/-- A definition that is compiled in place of a reference has its state back afterwards. -/
theorem leavesUnchanged_inlined (hstate : r.state? path = some state)
    (hn : LeavesUnchanged (r.mark path .compiling) (ctx.nested merged)) :
    LeavesUnchanged r (inlined ctx path state merged) := by
  intro s hs
  obtain ⟨herrors, hstored, hkept⟩ := hn (s.mark path .compiling) (hs.mark path .compiling)
  exact ⟨herrors, hstored, hkept.restored hstate⟩

/-- Only a reference to a definition that is not being compiled marks anything. -/
theorem unchanged_reference
    (hn : ∀ path target, LeavesUnchanged (r.mark path .compiling)
      (ctx.nested (inherit target (overrides raw)))) :
    Ensures (fun _ _ => True) (·.Unchanged r) (fun o => ∀ s ∈ o, s.Typed fun _ => True)
      (reference ctx raw) := by
  have hnoted : ∀ reason, Ensures (fun _ _ => True) (·.Unchanged r)
      (fun o => ∀ s ∈ o, s.Typed fun _ => True)
      (noteError (.of "$ref" reason) >>= fun _ => pure none : Compiling (Option Schema)) :=
    fun reason => (ensures_noteError trivial).bind fun _ _ => ensures_pure fun _ hs => nomatch hs
  unfold reference
  split
  · next name _ =>
    split
    · exact hnoted _
    · refine ensures_get_bind fun s hs => ?_
      split
      · exact hnoted _
      · next path target state htarget =>
        obtain ⟨-, -, hstate⟩ := target?_eq_some htarget
        rw [hs.state?] at hstate
        split
        · exact ensures_lift ⟨fun _ _ => trivial, fun _ _ _ _ => trivial⟩
        · exact ensures_attach (leavesUnchanged_inlined hstate (hn path target)) _ _
  · exact hnoted _

theorem leavesUnchanged_compileWithin (options : CompilerOptions) (depth : Nat) (r : Registry)
    (raw : RawSchema) :
    LeavesUnchanged r ((Compiler.builtin options).compileWithin depth raw) := by
  have hQ : OnReferences fun _ _ => True := fun _ _ _ => trivial
  induction depth generalizing r raw with
  | zero => exact Run.ensures_failed trivial
  | succ depth ih =>
    rw [Compiler.compileWithin_succ]
    exact ensures_compileIn options hQ (fun _ _ _ => trivial) (fun c _ required => ih r _)
      fun _ => unchanged_reference fun path target => ih _ _

end Compile

namespace Compiler

open Compile

/-- **Compiling a node leaves the registry unchanged**, in either form of the node, and whether or not
there are errors. -/
theorem registry_unchanged (options : CompilerOptions) (depth : Nat) (r : Registry) :
    (∀ raw : RawSchema, ((builtin options).compileWithin depth raw r).2.Unchanged r) ∧
      ∀ raw : Json, (((builtin options).context depth).compile raw r).2.Unchanged r := by
  have hfields : ∀ raw : RawSchema,
      ((builtin options).compileWithin depth raw r).2.Unchanged r := fun raw =>
    (leavesUnchanged_compileWithin options depth r raw r (.refl r)).2.2
  refine ⟨hfields, fun raw => ?_⟩
  unfold Context.compile
  cases normalize raw with
  | ok fields => exact hfields fields
  | error d => exact .refl r

end Compiler

end DataSchema
