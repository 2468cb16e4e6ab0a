import DataSchema.Proofs.Form.RoundTrip

/-!
# Reading normalizes once and for all

**Theorem (`readTop_normalizes`).** Let a JSON value be read as a whole schema, whatever it leaves
out, repeats, or has too much of. The schema is written without fail, and reading what is written
gives the schema again.

Writing and reading back is the identity on schemas with `Normal` nodes, compiled or not
(`exists_writeTop`), so it remains that reading gives no others. The law of one type is `Read`: what
the type reads is normal, and its children are what the nested reader gave for some parts of the
value. The only thing that could go wrong is a default: `null` is read as none, except by the type
of null schemas, which reads nothing else.
-/

namespace DataSchema

namespace Form

variable {read : Reader} {json : Dict Json} {s : Schema}

/-- The schema is normal, and its children are what the nested reader gave. -/
structure Read (read : Reader) (s : Schema) : Prop where
  normal : s.Normal
  child : ∀ c ∈ s.children, ∃ j, read j = .ok c

/-! ## Fields -/

/-- What follows the base goes on with a default that is set or none. -/
theorem readBase_bind_eq_ok {typeName : String}
    {f : Bool × Option Json → Except FormError Schema}
    (h : readBase typeName json >>= f = .ok s) :
    ∃ required default, default ≠ some .null ∧ f (required, default) = .ok s := by
  obtain ⟨⟨required, default⟩, hbase, hrest⟩ := bind_eq_ok.1 h
  obtain ⟨_, -, heq⟩ := bind_eq_ok.1 hbase
  obtain ⟨rfl, rfl⟩ := Prod.mk.inj (Except.ok.inj heq)
  exact ⟨_, _, Json.present_ne_null, hrest⟩

/-- The schemas of a list that is read element by element come from the nested reader. -/
theorem exists_read_of_mapM {α β : Type} {g : α → Except FormError β} (schema : β → Schema)
    (hg : ∀ a b, g a = .ok b → ∃ j, read j = .ok (schema b)) {as : List α} {bs : List β}
    (h : as.mapM g = .ok bs) : ∀ c ∈ bs.map schema, ∃ j, read j = .ok c := by
  intro c hc
  obtain ⟨b, hb, rfl⟩ := List.mem_map.1 hc
  obtain ⟨a, -, hab⟩ := exists_mem_of_forall₂ (mapM_eq_ok_iff.1 h).flip hb
  exact hg a b hab

theorem exists_read_of_properties {ps : Option (List (String × Schema))}
    (h : readProperties read json = .ok ps) :
    ∀ c ∈ (ps.getD []).map (·.2), ∃ j, read j = .ok c := by
  unfold readProperties at h
  split at h
  · obtain rfl := Except.ok.inj h
    simp
  · obtain rfl := Except.ok.inj h
    simp
  · obtain ⟨row, hrow, heq⟩ := bind_eq_ok.1 h
    obtain rfl := Except.ok.inj heq
    refine exists_read_of_mapM (·.2) (fun e p hp => ?_) hrow
    obtain ⟨s, hs, heq⟩ := bind_eq_ok.1 hp
    obtain rfl := Except.ok.inj heq
    exact ⟨e.2, hs⟩
  · cases h

theorem exists_read_of_pattern {item : Json} {p : Pattern × Schema}
    (h : readPattern read item = .ok p) : ∃ j, read j = .ok p.2 := by
  unfold readPattern at h
  dsimp only at h
  split at h
  · obtain ⟨source, -, hrest⟩ := bind_eq_ok.1 h
    obtain ⟨pattern, -, hrest⟩ := bind_eq_ok.1 hrest
    split at hrest
    · next j _ =>
      obtain ⟨s, hs, heq⟩ := bind_eq_ok.1 hrest
      obtain rfl := Except.ok.inj heq
      exact ⟨j, hs⟩
    · cases hrest
  · cases h

theorem exists_read_of_patterns {ps : Option (List (Pattern × Schema))}
    (h : readPatterns read json = .ok ps) :
    ∀ c ∈ (ps.getD []).map (·.2), ∃ j, read j = .ok c := by
  unfold readPatterns at h
  split at h
  · obtain rfl := Except.ok.inj h
    simp
  · obtain rfl := Except.ok.inj h
    simp
  · obtain ⟨row, hrow, heq⟩ := bind_eq_ok.1 h
    obtain rfl := Except.ok.inj heq
    exact exists_read_of_mapM (·.2) (fun _ _ => exists_read_of_pattern) hrow
  · cases h

theorem exists_read_of_propertyNames {names : Option Schema}
    (h : readPropertyNames read json = .ok names) :
    ∀ c ∈ names.toList, ∃ j, read j = .ok c := by
  unfold readPropertyNames at h
  split at h
  · obtain rfl := Except.ok.inj h
    simp
  · obtain rfl := Except.ok.inj h
    simp
  · next j _ _ =>
    obtain ⟨s, hs, heq⟩ := bind_eq_ok.1 (by rwa [← bind_pure_comp] at h)
    obtain rfl := Except.ok.inj heq
    intro c hc
    obtain rfl := List.mem_singleton.1 hc
    exact ⟨j, hs⟩

theorem exists_read_of_group {name : String} {g : Option (List Schema)}
    (h : readGroup read json name = .ok g) : ∀ c ∈ g.getD [], ∃ j, read j = .ok c := by
  unfold readGroup at h
  split at h
  · obtain rfl := Except.ok.inj h
    simp
  · obtain rfl := Except.ok.inj h
    simp
  · obtain ⟨members, hmembers, heq⟩ := bind_eq_ok.1 h
    obtain rfl := Except.ok.inj heq
    have hread := exists_read_of_mapM id (fun j _ hj => ⟨j, hj⟩) hmembers
    simpa using hread
  · cases h

/-! ## All kinds -/

/-- A scalar with constraints, which are read after the base. -/
theorem read_constrained {α : Type} {typeName : String} {constraints : Except FormError α}
    (kind : α → SchemaKind)
    (hkind : ∀ required default a, default ≠ some .null →
      Read read ⟨required, default, kind a⟩)
    (h : (do
      let (required, default) ← readBase typeName json
      let a ← constraints
      return ({ required, default, kind := kind a } : Schema)) = .ok s) : Read read s := by
  obtain ⟨required, default, hdefault, hrest⟩ := readBase_bind_eq_ok h
  obtain ⟨a, -, heq⟩ := bind_eq_ok.1 hrest
  obtain rfl := Except.ok.inj heq
  exact hkind required default a hdefault

theorem read_boolean (h : readBoolean json = .ok s) : Read read s := by
  obtain ⟨required, default, hdefault, heq⟩ := readBase_bind_eq_ok h
  obtain rfl := Except.ok.inj heq
  exact ⟨hdefault, nofun⟩

theorem read_null (h : readNull json = .ok s) : Read read s := by
  obtain ⟨required, _, -, heq⟩ := readBase_bind_eq_ok h
  obtain rfl := Except.ok.inj heq
  refine ⟨fun d hd => ?_, nofun⟩
  split at hd
  · exact (Option.some.inj hd).symm
  · cases hd

theorem read_number (h : readNumber json = .ok s) : Read read s :=
  read_constrained .number (fun _ _ _ hdefault => ⟨hdefault, nofun⟩) h

theorem read_integer (h : readInteger json = .ok s) : Read read s :=
  read_constrained .integer (fun _ _ _ hdefault => ⟨hdefault, nofun⟩) h

theorem read_string (h : readString json = .ok s) : Read read s :=
  read_constrained .string (fun _ _ _ hdefault => ⟨hdefault, nofun⟩) h

theorem read_reference (h : readReference json = .ok s) : Read read s := by
  obtain ⟨required, default, hdefault, hrest⟩ := readBase_bind_eq_ok h
  dsimp only at hrest
  split at hrest
  · obtain rfl := Except.ok.inj hrest
    exact ⟨hdefault, nofun⟩
  · cases hrest

theorem read_array (h : readArray read json = .ok s) : Read read s := by
  obtain ⟨required, default, hdefault, hrest⟩ := readBase_bind_eq_ok h
  obtain ⟨unique, -, hrest⟩ := bind_eq_ok.1 hrest
  split at hrest
  · cases hrest
  · next j _ =>
    obtain ⟨items, hitems, heq⟩ := bind_eq_ok.1 hrest
    obtain rfl := Except.ok.inj heq
    refine ⟨hdefault, fun c hc => ?_⟩
    obtain rfl := List.mem_singleton.1 hc
    exact ⟨j, hitems⟩

theorem read_object (h : readObject read json = .ok s) : Read read s := by
  obtain ⟨required, default, hdefault, hrest⟩ := readBase_bind_eq_ok h
  obtain ⟨listed, -, hrest⟩ := bind_eq_ok.1 hrest
  obtain ⟨properties, hproperties, hrest⟩ := bind_eq_ok.1 hrest
  obtain ⟨patterns, hpatterns, hrest⟩ := bind_eq_ok.1 hrest
  obtain ⟨names, hnames, hrest⟩ := bind_eq_ok.1 hrest
  obtain ⟨dependencies, -, hrest⟩ := bind_eq_ok.1 hrest
  obtain ⟨allow, -, hrest⟩ := bind_eq_ok.1 hrest
  obtain ⟨silent, -, heq⟩ := bind_eq_ok.1 hrest
  obtain rfl := Except.ok.inj heq
  refine ⟨hdefault, ?_⟩
  exact List.forall_mem_append.2 ⟨List.forall_mem_append.2
    ⟨exists_read_of_properties hproperties, exists_read_of_patterns hpatterns⟩,
    exists_read_of_propertyNames hnames⟩

theorem read_combine (h : readCombine read json = .ok s) : Read read s := by
  obtain ⟨required, default, hdefault, hrest⟩ := readBase_bind_eq_ok h
  obtain ⟨strategy, -, hrest⟩ := bind_eq_ok.1 hrest
  obtain ⟨allOf, hall, hrest⟩ := bind_eq_ok.1 hrest
  obtain ⟨anyOf, hany, hrest⟩ := bind_eq_ok.1 hrest
  obtain ⟨oneOf, hone, heq⟩ := bind_eq_ok.1 hrest
  obtain rfl := Except.ok.inj heq
  refine ⟨hdefault, ?_⟩
  exact List.forall_mem_append.2 ⟨List.forall_mem_append.2
    ⟨exists_read_of_group hall, exists_read_of_group hany⟩, exists_read_of_group hone⟩

/-- What a built-in type reads is normal, and its children are read by the nested reader. -/
theorem read_builtin {name : String} {t : TypeCompiler} (ht : (name, t) ∈ TypeCompiler.builtin)
    (h : t.read read json = .ok s) : Read read s := by
  simp only [TypeCompiler.builtin, List.mem_cons, Prod.mk.injEq, List.not_mem_nil, or_false] at ht
  rcases ht with ⟨-, rfl⟩ | ⟨-, rfl⟩ | ⟨-, rfl⟩ | ⟨-, rfl⟩ | ⟨-, rfl⟩ | ⟨-, rfl⟩ | ⟨-, rfl⟩ |
    ⟨-, rfl⟩ | ⟨-, rfl⟩
  · exact read_array h
  · exact read_boolean h
  · exact read_combine h
  · exact read_integer h
  · exact read_null h
  · exact read_number h
  · exact read_object h
  · exact read_reference h
  · exact read_string h

end Form

namespace Compiler

open Form

variable {options : CompilerOptions}

/-- **All nodes of a schema that is read are normal.** -/
theorem normal_readWithin {n : Nat} {json : Json} {s : Schema}
    (h : (builtin options).readWithin n json = .ok s) : s.Everywhere Schema.Normal := by
  induction n generalizing json s with
  | zero => cases h
  | succ n ih =>
    unfold readWithin at h
    split at h
    · split at h
      · cases h
      · split at h
        · cases h
        · next t ht =>
          have hread := read_builtin (Dict.mem_of_get? ht) h
          refine Schema.everywhere_iff.2 ⟨hread.normal, fun c hc => ?_⟩
          obtain ⟨j, hj⟩ := hread.child c hc
          exact ih hj
    · cases h

theorem read_of_readDefinition {json : Json} {d : DefinitionSchema}
    (h : (builtin options).readDefinition json = .ok d) :
    (builtin options).read json = .ok d.schema := by
  have hread {id : Option String}
      (h : (do return ({ id, schema := ← (builtin options).read json } : DefinitionSchema)) =
        .ok d) : (builtin options).read json = .ok d.schema := by
    obtain ⟨schema, hschema, heq⟩ := bind_eq_ok.1 h
    obtain rfl := Except.ok.inj heq
    exact hschema
  unfold readDefinition at h
  split at h
  · obtain ⟨id, -, hrest⟩ := bind_eq_ok.1 h
    exact hread hrest
  · exact hread h

theorem normal_readDefinitions {fields : Dict Json} {definitions : Dict DefinitionSchema}
    (h : (builtin options).readDefinitions fields = .ok definitions) :
    ∀ s ∈ definitions.map (·.2.schema), s.Everywhere Schema.Normal := by
  unfold readDefinitions at h
  split at h
  · obtain rfl := Except.ok.inj h
    simp
  · obtain rfl := Except.ok.inj h
    simp
  · intro s hs
    have hread : ∃ j, (builtin options).read j = .ok s := by
      refine exists_read_of_mapM (·.2.schema) (fun e d hd => ?_) h s hs
      obtain ⟨definition, hdefinition, heq⟩ := bind_eq_ok.1 hd
      obtain rfl := Except.ok.inj heq
      exact ⟨e.2, read_of_readDefinition hdefinition⟩
    obtain ⟨j, hj⟩ := hread
    exact normal_readWithin hj
  · cases h

theorem normal_readTop {json : Json} {top : TopSchema}
    (h : (builtin options).readTop json = .ok top) : top.Everywhere Schema.Normal := by
  unfold readTop at h
  split at h
  · obtain ⟨id, -, hrest⟩ := bind_eq_ok.1 h
    obtain ⟨definitions, hdefinitions, hrest⟩ := bind_eq_ok.1 hrest
    obtain ⟨body, hbody, heq⟩ := bind_eq_ok.1 hrest
    obtain rfl := Except.ok.inj heq
    intro root hroot
    rcases List.mem_cons.1 hroot with rfl | hroot
    · exact normal_readWithin hbody
    · exact normal_readDefinitions hdefinitions root hroot
  · cases h

/-- **Reading normalizes once and for all.** What is read as a whole schema is written, and reading
that gives it again. -/
theorem readTop_normalizes (options : CompilerOptions) {json : Json} {top : TopSchema}
    (h : (builtin options).readTop json = .ok top) :
    ∃ form, (builtin options).writeTop top = .ok form ∧
      (builtin options).readTop form = .ok top :=
  exists_writeTop (normal_readTop h)

/-- An object with nothing but empty groups, whose definitions are as loosely written: a null schema
with a default that is not null, and a text whose format is the key of an object. -/
def looseForm : Json :=
  .obj [("$id", .null),
    ("definitions", .obj [
      ("mail", .obj [("enum", .arr []), ("format", .arr [.obj [("email", .null)]]),
        ("transform", .arr []), ("type", .str "string")]),
      ("nothing", .obj [("default", .bool true), ("required", .null), ("type", .str "null")])]),
    ("dependencies", .obj []),
    ("note", .str "not a field of objects"),
    ("properties", .obj []),
    ("propertyNames", .obj [("allOf", .arr []), ("anyOf", .null), ("strategy", .null),
      ("type", .str "combine")]),
    ("regexNameProperties", .arr []),
    ("type", .str "object")]

/-- What `looseForm` is read as. -/
def loose : TopSchema :=
  { id := none
    definitions := [
      ("mail", ⟨none, .ofKind (.string
        { minLength := none
          maxLength := none
          pattern := none
          format := some [.email]
          transform := some []
          members := some [] })⟩),
      ("nothing", ⟨none, .ofKind .null⟩)]
    schema := .ofKind (.object
      { properties := some []
        regexNameProperties := some []
        propertyNames := some (.ofKind (.combine
          { strategy := .all, allOf := some [], anyOf := none, oneOf := none }))
        dependencies := some []
        requiredProperties := []
        allowAdditionalProperties := false
        silentIgnore := false }) }

set_option maxRecDepth 10000 in
theorem readTop_normalizes_loose :
    (builtin {}).readTop looseForm = .ok loose ∧
      ∃ form, (builtin {}).writeTop loose = .ok form ∧ (builtin {}).readTop form = .ok loose := by
  have h : (builtin {}).readTop looseForm = .ok loose := rfl
  exact ⟨h, readTop_normalizes {} h⟩

end Compiler

end DataSchema
