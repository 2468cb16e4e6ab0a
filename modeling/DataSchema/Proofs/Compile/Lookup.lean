import DataSchema.Proofs.Compile.Top

/-!
# References reach what they were resolved to

A reference that stays in a compiled schema is looked up twice: the compiler resolves it in the
registry, where paths come before ids, and whoever uses the schema looks it up by
`TopSchema.definition?`, where the paths and then the ids of definitions come before the id of the
schema itself.

**Theorem (`reference_reaches_entry`).** In a schema that compiled without error the two agree on every
reference, in the body and in the definitions: the look-up finds the schema compiled for the very
entry that the registry gave, and that schema is no reference itself.

The orders do not matter since a registration fails when its path is taken or its id is the id or
the path of another entry, and since without errors every registered definition is there.
-/

namespace DataSchema

theorem TopSchema.afterPrefix?_eq_some {lead text rest : String} :
    afterPrefix? lead text = some rest ↔ text = lead ++ rest := by
  unfold afterPrefix?
  constructor
  · intro h
    split at h
    · next hlead =>
      obtain ⟨tail, htail⟩ := List.isPrefixOf_iff_prefix.1 hlead
      obtain rfl := Option.some.inj h
      rw [← htail, List.drop_left, ← String.toList_inj]
      simp [htail]
    · cases h
  · rintro rfl
    have hlead : lead.toList.isPrefixOf (lead ++ rest).toList = true :=
      List.isPrefixOf_iff_prefix.2 ⟨rest.toList, by simp⟩
    rw [if_pos hlead, String.toList_append, List.drop_left, String.ofList_toList]

/-- The schema compiled for the entry at a path: the body for the entry of the schema itself, else
the definition that has the path. -/
def TopSchema.EntrySchema (top : TopSchema) (pathPrefix path : String) (target : Schema) : Prop :=
  top.id = some path ∧ target = top.schema ∨
    top.id ≠ some path ∧ ∃ name d, path = pathPrefix ++ name ∧
      top.definitions.get? name = some d ∧ target = d.schema

namespace Compile

/-- What is known of the target of a reference that stayed. -/
theorem Node.ref_target {r : Registry} {raw : RawSchema} {s : Schema} (h : Node r raw s)
    {reference : String} (hk : s.kind = .ref reference) :
    ∃ path target, r.resolve reference = some path ∧ r.raw? path = some target ∧
      Compiler.typeName? target ≠ some "ref" := by
  induction h with
  | ref _ _ _ _ resolved found concrete =>
    obtain rfl : _ = reference := SchemaKind.ref.inj hk
    exact ⟨_, _, resolved, found, concrete⟩
  | inlined _ _ _ _ ih => exact ih hk
  | _ => cases hk

theorem keys_of_definitions {r : Registry} {names : List (String × String)}
    {ds : Dict DefinitionSchema} (h : List.Forall₂ (DefinitionOf r) names ds) :
    ds.keys = names.map Prod.fst := by
  induction h with
  | nil => rfl
  | cons hd _ ih =>
    unfold Dict.keys at ih ⊢
    rw [List.map_cons, List.map_cons, hd.1, ih]

namespace CompiledFrom

variable {pathPrefix : String} {raw : RawSchema} {names : List (String × String)} {r : Registry}
  {top : TopSchema}

theorem nodup_keys (h : CompiledFrom pathPrefix raw names r top) : top.definitions.keys.Nodup := by
  rw [keys_of_definitions h.definitions]
  exact h.registered.nodup

theorem exists_get? (h : CompiledFrom pathPrefix raw names r top) {name path : String}
    (he : (name, path) ∈ names) : ∃ d, top.definitions.get? name = some d := by
  obtain ⟨⟨_, d⟩, hd, rfl, -⟩ := exists_mem_of_forall₂ h.definitions he
  exact ⟨d, Dict.get?_of_mem h.nodup_keys hd⟩

/-- The first of the look-ups fails on what is the path of no definition. -/
theorem get?_afterPrefix? (h : CompiledFrom pathPrefix raw names r top) {reference : String}
    (hpath : ∀ name, (name, reference) ∉ names) :
    ((TopSchema.afterPrefix? pathPrefix reference).bind fun name => top.definitions.get? name) =
      none := by
  refine Option.bind_eq_none_iff.2 fun name hname => ?_
  cases hget : top.definitions.get? name with
  | none => rfl
  | some d =>
    obtain ⟨hmem, -⟩ := h.of_mem (Dict.mem_of_get? hget)
    rw [← TopSchema.afterPrefix?_eq_some.1 hname] at hmem
    exact absurd hmem (hpath name)

/-- The own id of a schema leads to its body. -/
theorem definition?_own (h : CompiledFrom pathPrefix raw names r top) {path : String}
    (hown : top.id = some path) : top.definition? path pathPrefix = some top.schema := by
  have hother : ∀ name, (name, path) ∉ names := fun name he => h.registered.other _ he hown
  have hid : (top.definitions.find? fun e => e.2.id = some path) = none := by
    rw [List.find?_eq_none]
    rintro ⟨name, d⟩ hd hid
    obtain ⟨he, hsame, -⟩ := h.of_mem hd
    have hentry : r.id? (pathPrefix ++ name) = some path := by
      rw [← hsame]
      simpa using hid
    -- Both entries have this id, so they are one, and the definition has the path of the schema.
    have hdefinition := (h.registered.consistent _ _).2 hentry
    have hself := (h.registered.consistent _ _).2 (h.registered.own path hown).2
    rw [hself] at hdefinition
    exact hother name (Option.some.inj hdefinition ▸ he)
  unfold TopSchema.definition?
  rw [h.get?_afterPrefix? hother, hid, if_pos hown]

/-- The path of a definition leads to the definition. -/
theorem definition?_path {name : String} {d : DefinitionSchema}
    (hget : top.definitions.get? name = some d) :
    top.definition? (pathPrefix ++ name) pathPrefix = some d.schema := by
  unfold TopSchema.definition?
  rw [TopSchema.afterPrefix?_eq_some.2 rfl, Option.bind_some, hget]

/-- An id that is no path leads to the definition whose entry has it. -/
theorem definition?_id (h : CompiledFrom pathPrefix raw names r top) {reference name : String}
    (hfree : r.raw? reference = none) (he : (name, pathPrefix ++ name) ∈ names)
    (hid : r.id? (pathPrefix ++ name) = some reference) :
    ∃ d, top.definitions.get? name = some d ∧
      top.definition? reference pathPrefix = some d.schema := by
  obtain ⟨d, hget⟩ := h.exists_get? he
  have hpath : ∀ other, (other, reference) ∉ names := by
    intro other hother
    obtain ⟨raw, hraw, -⟩ := h.registered.found _ hother
    rw [hfree] at hraw
    cases hraw
  have hfind : (top.definitions.find? fun e => e.2.id = some reference) = some (name, d) := by
    obtain ⟨-, hsame, -⟩ := h.of_mem (Dict.mem_of_get? hget)
    have hsome : (top.definitions.find? fun e => e.2.id = some reference).isSome := by
      refine List.find?_isSome.2 ⟨(name, d), Dict.mem_of_get? hget, ?_⟩
      simp [hsame, hid]
    obtain ⟨⟨other, d'⟩, hd'⟩ := Option.isSome_iff_exists.1 hsome
    obtain ⟨-, hsame', -⟩ := h.of_mem (List.mem_of_find?_eq_some hd')
    have hid' : r.id? (pathPrefix ++ other) = some reference := by
      rw [← hsame']
      simpa using List.find?_some hd'
    have hone := (h.registered.consistent _ _).2 hid'
    rw [(h.registered.consistent _ _).2 hid] at hone
    obtain rfl : name = other := (String.append_right_inj _).1 (Option.some.inj hone)
    have hget' := Dict.get?_of_mem h.nodup_keys (List.mem_of_find?_eq_some hd')
    rw [hget] at hget'
    obtain rfl : d = d' := Option.some.inj hget'
    exact hd'
  refine ⟨d, hget, ?_⟩
  unfold TopSchema.definition?
  rw [h.get?_afterPrefix? hpath, hfind]

/-- **Both look-ups agree on every name that is registered.** -/
theorem definition?_of_resolve (h : CompiledFrom pathPrefix raw names r top) {reference path : String}
    (hres : r.resolve reference = some path) :
    ∃ target, top.definition? reference pathPrefix = some target ∧
      top.EntrySchema pathPrefix path target ∧
      ∃ raw, r.raw? path = some raw ∧ Compiled r.unmarked raw target := by
  obtain ⟨hcontains, hname⟩ := h.registered.consistent.resolve_eq_some hres
  by_cases hown : top.id = some path
  · obtain ⟨hraw, hid⟩ := h.registered.own path hown
    obtain rfl : reference = path := by
      rcases hname with rfl | ⟨-, hid'⟩
      · rfl
      · rw [hid'] at hid
        exact Option.some.inj hid
    exact ⟨top.schema, h.definition?_own hown, .inl ⟨hown, rfl⟩, raw, hraw, h.body⟩
  · obtain ⟨name, he⟩ := (h.registered.covered path hcontains).resolve_left hown
    obtain rfl : path = pathPrefix ++ name := h.registered.path _ he
    rcases hname with rfl | ⟨hfree, hid⟩
    · obtain ⟨d, hget⟩ := h.exists_get? he
      obtain ⟨-, -, hraw⟩ := h.of_mem (Dict.mem_of_get? hget)
      exact ⟨d.schema, definition?_path hget, .inr ⟨hown, name, d, rfl, hget, rfl⟩, hraw⟩
    · obtain ⟨d, hget, hdef⟩ := h.definition?_id hfree he hid
      obtain ⟨-, -, hraw⟩ := h.of_mem (Dict.mem_of_get? hget)
      exact ⟨d.schema, hdef, .inr ⟨hown, name, d, rfl, hget, rfl⟩, hraw⟩

end CompiledFrom

end Compile

namespace Compiler

/-- **References reach what they were resolved to, in one step.** Every reference in a compiled
schema finds the schema of the entry that the registry gave, and that schema is not a reference. -/
theorem reference_reaches_entry (options : CompilerOptions) (raw : Json) {top : TopSchema}
    (h : ((builtin options).compile raw).value? = some top) {root node : Schema}
    (hroot : root ∈ top.roots) (hnode : node.Within root) {reference : String}
    (href : node.kind = .ref reference) :
    ∃ path target, ((builtin options).registry raw).resolve reference = some path ∧
      top.definition? reference options.definitionPathPrefix = some target ∧
      top.EntrySchema options.definitionPathPrefix path target ∧
      ∀ other, target.kind ≠ .ref other := by
  obtain ⟨fields, names, hfrom⟩ := compiledFrom_of_value? h
  obtain ⟨raw', hbuilt⟩ := hfrom.built hroot hnode
  obtain ⟨path, rawTarget, hresolved, hfound, hconcrete⟩ := hbuilt.ref_target href
  rw [Registry.resolve_unmarked] at hresolved
  rw [Registry.raw?_unmarked] at hfound
  obtain ⟨target, hdef, hentry, raw'', hraw'', hcompiled⟩ := hfrom.definition?_of_resolve hresolved
  rw [hfound] at hraw''
  obtain rfl := Option.some.inj hraw''
  exact ⟨path, target, hresolved, hdef, hentry, hcompiled.1.kind_ne_ref hconcrete⟩

/-- Trees, whose nodes are referred to by the id of their definition. -/
def treeRaw : Json :=
  .obj [("$ref", .str "tree"),
    ("definitions", .obj [("node", .obj [
      ("$id", .str "tree"),
      ("items", .obj [("$ref", .str "tree"), ("type", .str "ref")]),
      ("type", .str "array")])]),
    ("type", .str "ref")]

/-- What `treeRaw` compiles to. -/
def tree : TopSchema :=
  let node : Schema := .ofKind (.array (.ofKind (.ref "tree")) false)
  { id := none, definitions := [("node", ⟨some "tree", node⟩)], schema := node }

set_option maxRecDepth 10000 in
theorem reference_reaches_entry_tree :
    ((builtin {}).compile treeRaw).value? = some tree ∧
      ∃ path target, ((builtin {}).registry treeRaw).resolve "tree" = some path ∧
        tree.definition? "tree" defaultDefinitionPrefix = some target ∧
        tree.EntrySchema defaultDefinitionPrefix path target ∧
        ∀ other, target.kind ≠ .ref other := by
  have hcompiled : ((builtin {}).compile treeRaw).value? = some tree := rfl
  have hwithin : (Schema.ofKind (.ref "tree")).Within tree.schema :=
    .child List.mem_cons_self (.self _)
  exact ⟨hcompiled, reference_reaches_entry {} treeRaw hcompiled List.mem_cons_self hwithin rfl⟩

end Compiler

end DataSchema
