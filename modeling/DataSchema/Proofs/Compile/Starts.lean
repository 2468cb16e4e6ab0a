import DataSchema.Proofs.Compile.Ensures
import DataSchema.Proofs.Compile.Expandable
import DataSchema.Proofs.Compile.Order

/-!
# Where compiling starts

A whole schema is compiled by compiling its definitions, each while it is marked, and its body.
`Starts` lists these raw schemas with the registries that they are compiled in.

**Theorem (`ensures_compile`).** What compiling ensures of all starts it ensures of the whole
schema, whether or not the definitions are registered without error.

**Theorem (`shows_compile`).** An error that is shown from one of the starts is an error of the
whole schema.
-/

namespace DataSchema

namespace Compile

open Diagnostic (Leaves)
open Step

/-- A raw schema that is compiled for a whole schema, and the registry that it is compiled in. -/
inductive Starts (c : Compiler) (whole : Json) : Registry → RawSchema → Prop
  | body {fields : RawSchema} (h : normalize whole = .ok fields) :
      Starts c whole (c.registry whole) fields
  | definition {path : String} {raw : RawSchema} (other : wholeId whole ≠ some path)
      (found : (c.registry whole).raw? path = some raw) :
      Starts c whole ((c.registry whole).mark path .compiling) raw

variable {Q : String → String → Prop} {A : String → Prop} {ctx : Context} {r : Registry}
  {raw : RawSchema} {whole : Json}

/-! ## Registering -/

theorem ensures_register (hQ : OnReferences Q) (path : String) (raw : RawSchema)
    (id : Option String) {field : RegistryError → String} {property : Option String}
    (hfield : ∀ e, field e ≠ "$ref") :
    Ensures Q (fun _ => True) (fun _ => True)
      (register path raw id fun e => ⟨field e, property, e.message, []⟩) := by
  unfold register
  refine ensures_get_bind fun s _ => ?_
  split
  · exact fun _ _ => ⟨Diagnostic.leaves_nil, trivial, trivial⟩
  · exact ensures_noteError_bind hQ (hfield _) (ensures_pure trivial)

theorem ensures_registerEach (hQ : OnReferences Q) (fields : List (String × Json)) :
    Ensures Q (fun _ => True) (fun _ => True) (registerEach ctx fields) := by
  induction fields with
  | nil => exact ensures_pure trivial
  | cons e rest ih =>
    obtain ⟨name, j⟩ := e
    have hdefinitions : ∀ _ : RegistryError, "definitions" ≠ "$ref" := fun _ => by decide
    have htype : "type" ≠ "$ref" := by decide
    unfold registerEach
    split
    · next d hd =>
      cases j with
      | str | obj => cases hd
      | null | bool | num | arr =>
        obtain rfl := Except.error.inj hd
        exact ensures_noteError_bind hQ htype ih
    · exact (ensures_register hQ _ _ _ hdefinitions).bind fun _ _ => ih.bind fun _ _ =>
        ensures_pure trivial

theorem ensures_registration (hQ : OnReferences Q) (ctx : Context) (raw : RawSchema) :
    Ensures Q (fun _ => True) (fun _ => True) (registration ctx raw) := by
  have hid : ∀ _ : RegistryError, "$id" ≠ "$ref" := fun _ => by decide
  have htop : ∀ id, Ensures Q (fun _ => True) (fun _ => True) (registerTop id raw) := by
    intro id
    cases id with
    | none => exact ensures_pure trivial
    | some i =>
      refine (ensures_register hQ _ _ _ hid).bind fun registered _ => ?_
      split
      · exact fun _ _ => ⟨Diagnostic.leaves_nil, trivial, trivial⟩
      · exact ensures_pure trivial
  have hnames : Ensures Q (fun _ => True) (fun _ => True) (registerDefinitions ctx raw) := by
    unfold registerDefinitions
    split
    · exact ensures_pure trivial
    · exact ensures_pure trivial
    · exact ensures_registerEach hQ _
    · exact ensures_noteError_bind hQ (by decide) (ensures_pure trivial)
  exact (ensures_lift (ensures_coerced hQ (by decide) _)).bind fun id _ => (htop id).bind fun _ _ =>
    hnames.bind fun _ _ => ensures_pure trivial

/-! ## Definitions -/

theorem ensures_definition (hQ : OnReferences Q) {path : String} (hfree : ¬ r.Busy path)
    (hraw : r.raw? path = some raw)
    (hn : Run.Ensures Q (·.Alike (r.mark path .compiling)) (Schema.Typed A) (ctx.nested raw)) :
    Ensures Q (·.Alike r) (fun o => ∀ d ∈ o, d.schema.Typed A) (definition ctx path) := by
  unfold definition
  refine ensures_get_bind fun s hs => ?_
  rw [Registry.raw?_congr hs.unmarked, hraw]
  refine (ensures_lift (ensures_coerced hQ (by decide) _)).bind fun id _ =>
    ensures_between (fun t ht => ht.mark path Iff.rfl) hn
      (fun t ht => ht.restored hfree (by decide)) fun o ho d hd => ?_
  obtain ⟨s, hs, rfl⟩ := Option.map_eq_some_iff.1 hd
  exact ho s hs

theorem ensures_definitions {names : List (String × String)}
    (h : ∀ e ∈ names,
      Ensures Q (·.Alike r) (fun o => ∀ d ∈ o, d.schema.Typed A) (definition ctx e.2)) :
    Ensures Q (·.Alike r) (fun ds => ∀ d ∈ ds, d.2.schema.Typed A) (definitions ctx names) := by
  induction names with
  | nil => exact ensures_pure fun _ hd => nomatch hd
  | cons e rest ih =>
    obtain ⟨he, hrest⟩ := List.forall_mem_cons.1 h
    refine (ensures_attach (Run.ensures_ofStep he) _ _).bind fun compiled hcompiled =>
      (ih hrest).bind fun others hothers => ensures_pure ?_
    cases compiled with
    | none => exact hothers
    | some d => exact List.forall_mem_cons.2 ⟨hcompiled d rfl, hothers⟩

theorem shows_definition {path : String} (hraw : r.raw? path = some raw)
    (hn : Run.Shows Q (·.Alike (r.mark path .compiling)) (ctx.nested raw)) :
    Shows Q (·.Alike r) (definition ctx path) := by
  unfold definition
  refine shows_get_bind fun s hs => ?_
  rw [Registry.raw?_congr hs.unmarked, hraw]
  have hid : Ensures (fun _ _ => True) (·.Alike r) (fun _ => True)
      (monadLift (ownId raw) : Compiling (Option String)) :=
    ensures_lift ⟨fun _ _ => trivial, trivial⟩
  exact shows_bind hid fun id => shows_between (fun t ht => ht.mark path Iff.rfl) hn _

theorem shows_definitions {names : List (String × String)}
    (hkeep : ∀ e ∈ names, Ensures (fun _ _ => True) (·.Alike r)
      (fun o => ∀ d ∈ o, d.schema.Typed fun _ => True) (definition ctx e.2))
    {e : String × String} (he : e ∈ names) (h : Shows Q (·.Alike r) (definition ctx e.2)) :
    Shows Q (·.Alike r) (definitions ctx names) := by
  induction names with
  | nil => cases he
  | cons first rest ih =>
    obtain ⟨hfirst, hrest⟩ := List.forall_mem_cons.1 hkeep
    rcases List.mem_cons.1 he with rfl | he
    · exact (shows_attach (Run.shows_ofStep h) _ _).bind _
    · exact shows_bind (ensures_attach (Run.ensures_ofStep hfirst) _ _) fun _ =>
        (ih hrest he).bind _

/-! ## Whole schemas -/

/-- What is left to do once the definitions of a whole schema are registered. -/
def completion (ctx : Context) (fields : RawSchema) (id : Option String)
    (names : List (String × String)) : Compiling (Option TopSchema) := do
  let definitions ← definitions ctx names
  let body ← merge (ctx.nested fields)
  return body.map fun schema => { id, definitions, schema }

/-- The errors of registering come before those of what is left to do. -/
theorem top_apply {fields : RawSchema} (hfields : normalize whole = .ok fields) :
    top ctx whole .empty =
      (registration ctx fields .empty >>= fun a => completion ctx fields a.1.1 a.1.2 a.2) := by
  rw [top_eq, hfields]
  rfl

/-- Nothing but states of definitions is changed by compiling. -/
theorem keeps_compileWithin (options : CompilerOptions) (n : Nat) (r : Registry)
    (raw : RawSchema) :
    Run.Ensures (fun _ _ => True) (·.Alike r) (Schema.Typed fun _ => True)
      ((Compiler.builtin options).compileWithin n raw) := by
  have htracks : Tracks (fun _ _ => True) (fun _ _ => True) fun _ => True :=
    { child := fun _ _ _ => trivial
      merged := fun _ _ _ => trivial
      type := fun _ _ _ => trivial
      recursive := fun _ _ _ => ⟨trivial, fun _ => ⟨fun _ _ => trivial, trivial⟩⟩
      onReferences := fun _ _ _ => trivial
      unresolved := fun _ => trivial
      notText := fun _ => trivial }
  exact ensures_compileWithin options htracks n trivial

end Compile

namespace Compiler

open Compile Step
open Diagnostic (Leaves)

variable {Q : String → String → Prop} {A : String → Prop} {whole : Json}

theorem registry_eq (c : Compiler) {fields : RawSchema} (hfields : normalize whole = .ok fields) :
    c.registry whole =
      (registration (c.context (compileDepth whole)) fields .empty).result.2 := by
  unfold registry
  rw [hfields]

/-- A definition that was registered is not being compiled, and is a start. -/
theorem starts_of_mem {c : Compiler} {fields : RawSchema} (hfields : normalize whole = .ok fields)
    {e : String × String}
    (he : e ∈ (registration (c.context (compileDepth whole)) fields .empty).result.1.2) :
    ∃ raw, (c.registry whole).raw? e.2 = some raw ∧ ¬ (c.registry whole).Busy e.2 ∧
      Starts c whole ((c.registry whole).mark e.2 .compiling) raw := by
  have hregistered := registered_registration (c.context (compileDepth whole)) fields
  have hother : wholeId whole ≠ some e.2 := by
    rw [wholeId_eq hfields]
    exact hregistered.other e he
  rw [← registry_eq c hfields] at hregistered
  obtain ⟨raw, hraw, -⟩ := hregistered.found e he
  refine ⟨raw, hraw, fun hbusy => ?_, .definition hother hraw⟩
  rw [registry_eq c hfields, busy_registered] at hbusy
  rw [wholeId_eq hfields] at hother
  exact hother hbusy

/-- What is registered under another path than that of the whole schema is one of the definitions. -/
theorem exists_name {c : Compiler} {fields : RawSchema} (hfields : normalize whole = .ok fields)
    {path : String} {raw : RawSchema} (other : wholeId whole ≠ some path)
    (found : (c.registry whole).raw? path = some raw) :
    ∃ name, (name, path) ∈
      (registration (c.context (compileDepth whole)) fields .empty).result.1.2 := by
  have hregistered := registered_registration (c.context (compileDepth whole)) fields
  rw [← registry_eq c hfields] at hregistered
  have hcontains : (c.registry whole).entries.contains path = true := by
    simpa [Registry.raw?, Dict.contains] using congrArg Option.isSome found
  rw [wholeId_eq hfields] at other
  exact (hregistered.covered _ hcontains).resolve_left other

theorem ensures_completion {I : Registry → RawSchema → Prop} (options : CompilerOptions)
    (h : Tracks I Q A) (hI : ∀ r raw, Starts (builtin options) whole r raw → I r raw)
    {fields : RawSchema} (hfields : normalize whole = .ok fields) (id : Option String) :
    Ensures Q (·.Alike ((builtin options).registry whole))
      (fun o => ∀ top ∈ o, top.Everywhere fun node => A node.typeName)
      (completion ((builtin options).context (compileDepth whole)) fields id
        (registration ((builtin options).context (compileDepth whole)) fields
          .empty).result.1.2) := by
  have hdefinitions : ∀ e ∈ (registration ((builtin options).context (compileDepth whole)) fields
      .empty).result.1.2, Ensures Q (·.Alike ((builtin options).registry whole))
        (fun o => ∀ d ∈ o, d.schema.Typed A)
        (definition ((builtin options).context (compileDepth whole)) e.2) := by
    intro e he
    obtain ⟨raw, hraw, hfree, hstarts⟩ := starts_of_mem hfields he
    exact ensures_definition h.onReferences hfree hraw
      (ensures_compileWithin options h _ (hI _ _ hstarts))
  have hbody := ensures_compileWithin options h (compileDepth whole) (hI _ _ (.body hfields))
  refine (ensures_definitions hdefinitions).bind fun ds hds =>
    (ensures_merge hbody).bind fun body hbody => ensures_pure fun top htop root hroot => ?_
  obtain ⟨schema, hschema, rfl⟩ := Option.map_eq_some_iff.1 htop
  rcases List.mem_cons.1 hroot with rfl | hroot
  · exact hbody _ hschema
  · obtain ⟨d, hd, rfl⟩ := List.mem_map.1 hroot
    exact hds d hd

/-- **What compiling ensures of all starts it ensures of the whole schema.** -/
theorem ensures_compile {I : Registry → RawSchema → Prop} (options : CompilerOptions)
    (h : Tracks I Q A) (hI : ∀ r raw, Starts (builtin options) whole r raw → I r raw) :
    Leaves Q ((builtin options).compile whole).errors ∧
      ∀ top ∈ ((builtin options).compile whole).stored,
        top.Everywhere fun node => A node.typeName := by
  let ctx := (builtin options).context (compileDepth whole)
  change Leaves Q (top ctx whole .empty).errors ∧
    ∀ top ∈ (Compile.top ctx whole .empty).result.1, top.Everywhere fun node => A node.typeName
  cases hfields : normalize whole with
  | error d =>
    rw [top_eq, hfields]
    cases whole with
    | str | obj => cases hfields
    | null | bool | num | arr =>
      obtain rfl := Except.error.inj hfields
      exact ⟨Diagnostic.leaves_of.2 (h.onReferences _ _ (by decide)), fun _ htop => nomatch htop⟩
  | ok fields =>
    obtain ⟨hregistering, -⟩ :=
      ensures_registration h.onReferences ctx fields .empty trivial
    obtain ⟨herrors, htop, -⟩ := ensures_completion options h hI hfields
      (registration ctx fields .empty).result.1.1 _ (.refl _)
    rw [registry_eq _ hfields] at herrors htop
    rw [top_apply hfields, Noted.bind_def]
    exact ⟨Diagnostic.leaves_append.2 ⟨hregistering, herrors⟩, htop⟩

theorem shows_completion (options : CompilerOptions) {r : Registry} {raw : RawSchema}
    (hstarts : Starts (builtin options) whole r raw)
    (h : Run.Shows Q (·.Alike r) ((builtin options).compileWithin (compileDepth whole) raw))
    {fields : RawSchema} (hfields : normalize whole = .ok fields) (id : Option String) :
    Shows Q (·.Alike ((builtin options).registry whole))
      (completion ((builtin options).context (compileDepth whole)) fields id
        (registration ((builtin options).context (compileDepth whole)) fields
          .empty).result.1.2) := by
  have hkeep : ∀ e ∈ (registration ((builtin options).context (compileDepth whole)) fields
      .empty).result.1.2, Ensures (fun _ _ => True) (·.Alike ((builtin options).registry whole))
        (fun o => ∀ d ∈ o, d.schema.Typed fun _ => True)
        (definition ((builtin options).context (compileDepth whole)) e.2) := by
    intro e he
    obtain ⟨raw, hraw, hfree, -⟩ := starts_of_mem hfields he
    exact ensures_definition (fun _ _ _ => trivial) hfree hraw
      (keeps_compileWithin options (compileDepth whole) _ raw)
  cases hstarts with
  | body hfields' =>
    obtain rfl := Except.ok.inj (hfields.symm.trans hfields')
    exact shows_bind (ensures_definitions hkeep) fun _ => (shows_merge h).bind _
  | @definition path _ other found =>
    obtain ⟨name, hname⟩ := exists_name hfields other found
    exact (shows_definitions hkeep hname (shows_definition found h)).bind _

/-- **An error that is shown from a start is an error of the whole schema.** -/
theorem shows_compile (options : CompilerOptions) {r : Registry} {raw : RawSchema}
    (hstarts : Starts (builtin options) whole r raw)
    (h : Run.Shows Q (·.Alike r) ((builtin options).compileWithin (compileDepth whole) raw)) :
    ¬ Leaves Q ((builtin options).compile whole).errors := by
  obtain ⟨fields, hfields⟩ : ∃ fields, normalize whole = .ok fields := by
    cases hstarts with
    | body hfields => exact ⟨_, hfields⟩
    | definition _ found =>
      cases hfields : normalize whole with
      | ok fields => exact ⟨fields, rfl⟩
      | error d =>
        rw [registry, hfields] at found
        cases found
  have hshown := shows_completion options hstarts h hfields
    (registration ((builtin options).context (compileDepth whole)) fields .empty).result.1.1 _
    (.refl _)
  rw [registry_eq _ hfields] at hshown
  change ¬ Leaves Q (top _ whole .empty).errors
  rw [top_apply hfields, Noted.bind_def]
  exact fun hleaves => hshown (Diagnostic.leaves_append.1 hleaves).2

end Compiler

end DataSchema
