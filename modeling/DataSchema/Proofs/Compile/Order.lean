import DataSchema.Proofs.Compile.Place
import DataSchema.Proofs.Compile.Terminates

/-!
# The order of definitions does not matter

**Theorem (`compile_independent_of_order`).** A raw schema compiles to the same outcome in
registries that are alike. In a schema that compiled without error each definition is therefore
what it would be if any other definitions had been compiled before it, and a reference that
overrides nothing is the schema of its definition.

While definitions are compiled no more than the schema itself counts as being compiled
(`busy_registration`), so the registry stays alike to the one that registering left.
-/

namespace DataSchema

namespace Compile

open Step

variable {ctx : Context} {raw : RawSchema} {r r' : Registry}

/-! ## What is being compiled -/

/-- After registering, the schema itself counts as being compiled, and no definition does, whether
or not registering meets errors. -/
theorem busy_registered (ctx : Context) (raw : RawSchema) (path : String) :
    (registration ctx raw .empty).result.2.Busy path ↔ registeredId raw = some path := by
  obtain ⟨-, hentries⟩ := entries_registerTop (registeredId raw) raw
  have hext := extends_registerDefinitions ctx raw
    (registerTop (registeredId raw) raw .empty).result.2
  rw [← result_ownId] at hentries hext ⊢
  constructor
  · intro hbusy
    obtain ⟨e, he, hstate⟩ := Option.map_eq_some_iff.1 hbusy
    rcases hext.covered path e he with hu | ⟨name, hmem⟩
    · exact ((hentries path e).1 hu).1
    · obtain ⟨raw', hraw'⟩ := hext.found _ hmem
      obtain rfl := Option.some.inj (he.symm.trans hraw')
      cases hstate
  · intro hid
    have hown : (registration ctx raw .empty).result.2.entries.get? path = _ :=
      hext.kept path _ ((hentries path _).2 ⟨hid, rfl⟩)
    rw [Registry.Busy, Registry.state?, hown]
    rfl

theorem busy_registration {id : Option String} {names : List (String × String)}
    (h : (registration ctx raw).Yields .empty (id, names) r) (path : String) :
    r.Busy path ↔ id = some path := by
  have hbusy := busy_registered ctx raw path
  have hid : (registration ctx raw .empty).result.1.1 = registeredId raw := result_ownId raw
  rw [← hid, h.2] at hbusy
  exact hbusy

/-! ## Definitions -/

/-- Compiling a definition leaves a registry that is alike if the definition was free. -/
theorem definition_steady (hs : Steady ctx) {path : String} {o : Option DefinitionSchema}
    (hfree : ¬ r.Busy path) (h : (definition ctx path).Yields r o r') :
    r'.Alike r ∧ ∃ d raw, o = some d ∧ r.raw? path = some raw ∧
      CompiledTo ctx (r.mark path .compiling) raw d.schema := by
  obtain ⟨raw, id, body, u, hraw, -, hbody, rfl, rfl⟩ := yields_definition.1 h
  obtain ⟨hu, s, rfl⟩ := hs hbody
  exact ⟨hu.restored hfree (by decide), _, raw, rfl, hraw, _, _, .refl _, hbody⟩

/-- Each definition is compiled in a registry that is alike. -/
theorem definitions_runs (hs : Steady ctx) {names : List (String × String)}
    {ds : Dict DefinitionSchema} (hfree : ∀ e ∈ names, ¬ r.Busy e.2)
    (h : (definitions ctx names).Yields r ds r') :
    r'.Alike r ∧ List.Forall₂ (fun e d => d.1 = e.1 ∧
      ∃ u u', u.Alike r ∧ (definition ctx e.2).Yields u (some d.2) u') names ds := by
  induction names generalizing r ds with
  | nil =>
    obtain ⟨rfl, rfl⟩ := yields_pure.1 h
    exact ⟨.refl r, .nil⟩
  | cons e rest ih =>
    obtain ⟨name, path⟩ := e
    simp only [definitions, yields_bind, yields_attach, Run.ends_ofStep] at h
    obtain ⟨o, u, hd, others, _, hothers, h⟩ := h
    obtain ⟨hu, d, raw, rfl, -⟩ := definition_steady hs (hfree _ List.mem_cons_self) hd
    obtain ⟨rfl, rfl⟩ := yields_pure.1 h
    have hrest : ∀ e ∈ rest, ¬ u.Busy e.2 := fun e he hbusy =>
      hfree e (List.mem_cons_of_mem _ he) ((hu.busy _).1 hbusy)
    obtain ⟨hr, hall⟩ := ih hrest hothers
    refine ⟨hr.trans hu, .cons ⟨rfl, r, u, .refl r, hd⟩ (hall.imp ?_)⟩
    rintro e d ⟨hname, v, v', hv, hyields⟩
    exact ⟨hname, v, v', hv.trans hu, hyields⟩

theorem definitions_steady (hs : Steady ctx) {names : List (String × String)}
    {ds : Dict DefinitionSchema} (hfree : ∀ e ∈ names, ¬ r.Busy e.2)
    (h : (definitions ctx names).Yields r ds r') :
    r'.Alike r ∧ ∀ name d, (name, d) ∈ ds → ∃ path u u', (name, path) ∈ names ∧ u.Alike r ∧
      (definition ctx path).Yields u (some d) u' := by
  obtain ⟨hr, hall⟩ := definitions_runs hs hfree h
  refine ⟨hr, fun name d hmem => ?_⟩
  obtain ⟨⟨_, path⟩, he, rfl, u, u', hu, hyields⟩ := exists_mem_of_forall₂ hall.flip hmem
  exact ⟨path, u, u', he, hu, hyields⟩

/-- A definition compiles to the same in registries that are alike. -/
theorem agree_definition_self (options : CompilerOptions) (n : Nat) (r₀ : Registry)
    (path : String) :
    Agree .whole (Same r₀) (definition ((Compiler.builtin options).context n) path)
      (definition ((Compiler.builtin options).context n) path) :=
  agree_definition fun raw _ => agree_same fun _ _ h => agree_compileWithin options n h.1 raw

/-- What a definition was once compiled to it compiles to in any registry that is alike. -/
theorem value?_definition {options : CompilerOptions} {n : Nat} {path : String}
    {d : DefinitionSchema} {u u' : Registry} (hu : u.Alike r)
    (h : (definition ((Compiler.builtin options).context n) path).Yields u (some d) u') :
    (Run.ofStep (definition ((Compiler.builtin options).context n) path) r).1.value? = some d := by
  have hagree := Run.agree_ofStep (agree_definition_self options n u path) u r ⟨hu, rfl⟩
  have hends := Run.ends_ofStep.2 h
  rw [← hagree.1.value]
  exact Outcome.value?_eq_some.2 ⟨hends.1, hends.2.1⟩

/-- With enough depth a raw schema is compiled to one schema only. -/
theorem compiledTo_unique {options : CompilerOptions} {n m k d most : Nat} {c c' : Schema}
    (h : r.Alike r') (hfits : RawsFit most r) (hraw : Fits d raw) (hd : d ≤ most)
    (hk : r.free ≤ k) (hn : enough k most d ≤ n) (hm : enough k most d ≤ m)
    (hc : CompiledTo ((Compiler.builtin options).context n) r raw c)
    (hc' : CompiledTo ((Compiler.builtin options).context m) r' raw c') : c = c' := by
  obtain ⟨u, u', hu, hends⟩ := hc
  obtain ⟨v, v', hv, hends'⟩ := hc'
  have hfits' : RawsFit most u := fun path raw hraw =>
    hfits path raw (by rw [← hraw, Registry.raw?_congr hu.unmarked])
  have hk' : u.free ≤ k := by
    rw [Registry.free_congr hu]
    exact hk
  have heq := outcome_compileWithin_eq options ((hu.trans h).trans hv.symm) hfits' hraw hd hk' hn hm
  have hstored : some c = some c' := by
    rw [← hends.2.1, ← hends'.2.1]
    exact congrArg Outcome.stored heq
  exact Option.some.inj hstored

/-! ## References that override nothing -/

/-- A reference without any other field. -/
structure Bare (raw : RawSchema) (reference : String) : Prop where
  type : Compiler.typeName? raw = some "ref"
  ref : raw.get? "$ref" = some (.str reference)
  only : ∀ e ∈ raw, e.1 = "type" ∨ e.1 = "$ref"

theorem Bare.overrides_eq_nil {reference : String} (h : Bare raw reference) :
    overrides raw = [] := by
  refine List.filter_eq_nil_iff.2 fun e he => ?_
  rcases h.only e he with heq | heq <;> simp [heq]

/-- A reference that overrides nothing is compiled from its definition as it is. -/
theorem compiledTo_bare {options : CompilerOptions} {n : Nat} {s : Schema}
    {reference path : String} {target : RawSchema} (hbare : Bare raw reference)
    (hfree : Free r reference path target)
    (h : CompiledTo ((Compiler.builtin options).context (n + 1)) r raw s) :
    CompiledTo ((Compiler.builtin options).context n) (r.mark path .compiling) target s := by
  obtain ⟨u, u', hu, hends⟩ := h
  have hends : ((Compiler.builtin options).compileWithin (n + 1) raw).Ends u (some s) u' := hends
  rw [Compiler.compileWithin_succ, Compiler.compileIn, hbare.type] at hends
  obtain ⟨name, path', target', state, href, -, htarget, hrun⟩ :=
    yields_reference (Run.ends_ofStep.1 hends)
  obtain rfl : reference = name := by
    rw [hbare.ref] at href
    exact Json.str.inj (Option.some.inj href)
  obtain ⟨hpath, hraw, hstate⟩ := target?_eq_some htarget
  rw [Registry.resolve_congr hu.unmarked, hfree.resolved] at hpath
  obtain rfl := Option.some.inj hpath
  rw [Registry.raw?_congr hu.unmarked, hfree.found] at hraw
  obtain rfl := Option.some.inj hraw
  rcases hrun with ⟨rfl, -⟩ | ⟨-, hinlined⟩
  · exact absurd ((hu.busy path).1 hstate) hfree.free
  · obtain ⟨v, hends, -⟩ := ends_inlined hinlined
    rw [hbare.overrides_eq_nil] at hends
    exact ⟨u.mark path .compiling, v, hu.mark path Iff.rfl, hends⟩

/-- A reference that overrides nothing is the schema of its definition: both are compiled from the
same raw schema, each while the definition is marked, so that one definition less is free. -/
theorem schema_of_bare {options : CompilerOptions} {n m most e : Nat} {c : Schema}
    {d : DefinitionSchema} {reference path : String} {target : RawSchema} {w w' : Registry}
    (hbare : Bare raw reference) (hfree : Free r reference path target) (hfits : RawsFit most r)
    (hm : enough r.size most e ≤ m) (hn : enough r.size most most ≤ n)
    (hc : CompiledTo ((Compiler.builtin options).context m) r raw c) (hw : w.Alike r)
    (hd : (definition ((Compiler.builtin options).context n) path).Yields w (some d) w') :
    c = d.schema := by
  obtain ⟨m, rfl⟩ : ∃ left, m = left + 1 :=
    Nat.exists_eq_add_one.2 (Nat.lt_of_lt_of_le (Nat.succ_pos _) hm)
  have hreference := compiledTo_bare hbare hfree hc
  obtain ⟨-, d', target', heq, htarget', hdefinition⟩ := definition_steady
    (steady_context options n) (fun hbusy => hfree.free ((hw.busy _).1 hbusy)) hd
  obtain rfl := Option.some.inj heq
  rw [Registry.raw?_congr hw.unmarked, hfree.found] at htarget'
  obtain rfl := Option.some.inj htarget'
  have hlt := Registry.free_mark_lt hfree.found hfree.free
  have hle := r.free_le_size
  obtain ⟨k, hk⟩ : ∃ k, r.size = k + 1 := Nat.exists_eq_add_one.2 (by omega)
  rw [hk, enough_reference] at hm hn
  have hk' : (r.mark path .compiling).free ≤ k := by omega
  have hm' : enough k most most ≤ m := by omega
  exact compiledTo_unique (hw.symm.mark _ Iff.rfl) (hfits.mark _ .compiling)
    (hfits _ target hfree.found) (Nat.le_refl _) hk' hm' (by omega) hreference hdefinition

end Compile

namespace Compiler

open Compile

/-- The runs that a whole schema is compiled by. -/
theorem runs_of_value? {options : CompilerOptions} {raw : Json} {top : TopSchema}
    (h : ((builtin options).compile raw).value? = some top) :
    ∃ fields names u v, normalize raw = .ok fields ∧
      (registration ((builtin options).context (compileDepth raw)) fields).Yields .empty
        (top.id, names) ((builtin options).registry raw) ∧
      (Compile.definitions ((builtin options).context (compileDepth raw)) names).Yields
        ((builtin options).registry raw) top.definitions u ∧
      ((builtin options).compileWithin (compileDepth raw) fields).Ends u (some top.schema) v := by
  have hyields := Run.ends_ofStep.1 (Run.ends_of_value? h)
  rw [top_eq] at hyields
  split at hyields
  · exact absurd hyields Step.not_yields_noteError_bind
  · next fields hfields =>
    simp only [Step.yields_bind, Step.yields_merge] at hyields
    obtain ⟨⟨id, names⟩, r, hreg, ds, u, hds, body, v, hbody, hyields⟩ := hyields
    obtain ⟨-, s, rfl, -⟩ := sound_compileWithin options _ hbody
    obtain ⟨heq, -⟩ := Step.yields_pure.1 hyields
    obtain rfl := Option.some.inj heq
    have hr : (builtin options).registry raw = r := by
      rw [registry]
      simp only [hfields]
      exact congrArg Prod.snd hreg.2
    rw [hr]
    exact ⟨fields, names, u, v, hfields, hreg, hds, hbody⟩

/-- **The order of definitions does not matter.** -/
theorem compile_independent_of_order (options : CompilerOptions) :
    (∀ (n : Nat) (raw : Json) (r r' : Registry), r.Alike r' →
      (((builtin options).context n).compile raw r).1 =
        (((builtin options).context n).compile raw r').1) ∧
    ∀ (raw : Json) (top : TopSchema), raw.SortedKeys →
      ((builtin options).compile raw).value? = some top →
      ∀ (name : String) (d : DefinitionSchema), (name, d) ∈ top.definitions →
        (∀ r : Registry, r.Alike ((builtin options).registry raw) →
          (Run.ofStep (Compile.definition ((builtin options).context (compileDepth raw))
            (options.definitionPathPrefix ++ name)) r).1.value? = some d) ∧
        ∀ (fields node : RawSchema) (places : List Place) (reference : String),
          normalize raw = .ok fields → fields.at? places = some node → Bare node reference →
          ((builtin options).registry raw).resolve reference =
            some (options.definitionPathPrefix ++ name) →
          top.schema.at? places = some d.schema := by
  refine ⟨fun n raw r r' hr => ?_, fun raw top hsorted h name d hd => ?_⟩
  · have hagree : Run.Agree .whole (Near r r') (((builtin options).context n).compile raw)
        (((builtin options).context n).compile raw) :=
      agree_compile (paired_self fun f _ => agree_compileWithin options n hr f)
    exact (hagree r r' ⟨.refl r, .refl r'⟩).1.eq
  · obtain ⟨fields, names, u, v, hfields, hreg, hds, hbody⟩ := runs_of_value? h
    have hs : Steady ((builtin options).context (compileDepth raw)) := steady_context options _
    have hregistered := registered_of_registration hreg
    have hnames : ∀ e ∈ names, ¬ ((builtin options).registry raw).Busy e.2 := fun e he hbusy =>
      hregistered.other e he ((busy_registration hreg e.2).1 hbusy)
    obtain ⟨hu, hall⟩ := definitions_steady hs hnames hds
    obtain ⟨path, w, w', hmem, hw, hyields⟩ := hall name d hd
    obtain rfl : path = options.definitionPathPrefix ++ name := hregistered.path _ hmem
    have hfree := hnames _ hmem
    refine ⟨fun r hr => value?_definition (hw.trans hr.symm) hyields, ?_⟩
    intro fields' node places reference hfields' hat hbare hres
    obtain rfl : fields = fields' := by rw [hfields] at hfields'; exact Except.ok.inj hfields'
    obtain ⟨henough, hfits⟩ := registry_bounded options raw
    obtain ⟨c, m, e, hc, -, -, hm, hto⟩ := at_of_ends (.normalize hsorted hfields)
      (normalize_fits hfields) henough hbody hat
    obtain ⟨target, htarget, -⟩ := hregistered.found _ hmem
    obtain rfl : c = d.schema := schema_of_bare hbare ⟨hres, htarget, hfree⟩ hfits hm henough
      (hto.alike hu) hw hyields
    exact hc

/-- Lists of numbers; the definition of a list comes before that of its elements. -/
def listsRaw : Json :=
  .obj [("definitions", .obj [
      ("list", .obj [
        ("items", .obj [("$ref", .str "number"), ("type", .str "ref")]),
        ("type", .str "array")]),
      ("number", .obj [("$id", .str "number"), ("type", .str "integer")])]),
    ("properties", .obj [("lists", .obj [
      ("items", .obj [("$ref", .str "#/definitions/list"), ("type", .str "ref")]),
      ("type", .str "array")])]),
    ("requiredProperties", .arr [.str "lists"]),
    ("type", .str "object")]

/-- A schema of integers without bounds. -/
def integers : Schema := .ofKind (.integer ⟨none, none, none, none, none⟩)

/-- What `listsRaw` compiles to. -/
def lists : TopSchema :=
  let list : Schema := .ofKind (.array integers false)
  { id := none
    definitions := [("list", ⟨none, list⟩), ("number", ⟨some "number", integers⟩)]
    schema := .ofKind (.object
      { properties := some [("lists", ⟨true, none, .array list false⟩)]
        regexNameProperties := none
        propertyNames := none
        dependencies := none
        requiredProperties := ["lists"]
        allowAdditionalProperties := false
        silentIgnore := false }) }

set_option maxRecDepth 20000 in
theorem compile_independent_of_order_lists :
    ((builtin {}).compile listsRaw).value? = some lists ∧
      (((builtin {}).context 2).compile (.obj [("$ref", .str "number"), ("type", .str "ref")])
          (((builtin {}).registry listsRaw).mark "#/definitions/number" .finished)).1 =
        (((builtin {}).context 2).compile (.obj [("$ref", .str "number"), ("type", .str "ref")])
          ((builtin {}).registry listsRaw)).1 ∧
      (Run.ofStep (Compile.definition ((builtin {}).context (compileDepth listsRaw))
          "#/definitions/list") (((builtin {}).registry listsRaw).mark "#/definitions/number"
            .finished)).1.value? = some ⟨none, .ofKind (.array integers false)⟩ ∧
      lists.schema.at? [.property "lists", .items] = some (.ofKind (.array integers false)) := by
  have hcompiled : ((builtin {}).compile listsRaw).value? = some lists := rfl
  have halike : (((builtin {}).registry listsRaw).mark "#/definitions/number" .finished).Alike
      ((builtin {}).registry listsRaw) := Registry.alike_mark (by decide) (by decide)
  have hd : ("list", ⟨none, .ofKind (.array integers false)⟩) ∈ lists.definitions :=
    List.mem_cons_self
  obtain ⟨houtcome, hwhole⟩ := compile_independent_of_order {}
  obtain ⟨hdefinition, hreference⟩ := hwhole listsRaw lists (by decide) hcompiled "list" _ hd
  refine ⟨hcompiled, houtcome 2 _ _ _ halike, hdefinition _ halike, ?_⟩
  exact hreference _ [("$ref", .str "#/definitions/list"), ("type", .str "ref")]
    [.property "lists", .items] "#/definitions/list" rfl rfl ⟨rfl, rfl, by simp⟩ rfl

end Compiler

end DataSchema
