import DataSchema.Proofs.Compile.Top
import DataSchema.Proofs.Form.Container

/-!
# Reading back whole schemas

**Theorem (`readTop_writeTop`).** Every whole schema that a compiler with the built-in types compiles
is written as JSON without fail, and reading that gives the same schema.

The proof is an induction on the bound on the depth of the writer (`exists_stored`). Each type is
faithful to the schemas of its kind if writing and reading are on the children, so it remains that a
reader has depth enough: the form of a schema is at least as deep as the schema is high. At the top
the id and the definitions are put into the object of the body; the body is still read back, since
its type looks at none of the two.

**Which schemas.** All that is used of a schema is that its nodes are `Normal`; compiled nodes are.
-/

namespace DataSchema

open Form

theorem TypeCompiler.exists_faithful {s : Schema} (hs : s.Normal) :
    ∃ t, TypeCompiler.builtin.get? s.typeName = some t ∧ t.Faithful s := by
  unfold Schema.typeName
  cases hk : s.kind with
  | boolean => exact ⟨_, rfl, faithful_boolean hs hk⟩
  | null => exact ⟨_, rfl, faithful_null hs hk⟩
  | number b => exact ⟨_, rfl, faithful_number hs hk⟩
  | integer b => exact ⟨_, rfl, faithful_integer hs hk⟩
  | string c => exact ⟨_, rfl, faithful_string hs hk⟩
  | array items unique => exact ⟨_, rfl, faithful_array hs hk⟩
  | object o => exact ⟨_, rfl, faithful_object hs hk⟩
  | combine c => exact ⟨_, rfl, faithful_combine hs hk⟩
  | ref name => exact ⟨_, rfl, faithful_ref hs hk⟩
  | custom typeName properties => simp [Schema.Normal, hk] at hs

namespace Compiler

variable {options : CompilerOptions}

theorem writeWithin_succ {s : Schema} {t : TypeCompiler}
    (ht : TypeCompiler.builtin.get? s.typeName = some t) (n : Nat) :
    (builtin options).writeWithin (n + 1) s = t.write ((builtin options).writeWithin n) s := by
  rw [writeWithin]
  simp only [builtin, ht]

theorem readWithin_succ {fields : Dict Json} {name : String} {t : TypeCompiler}
    (hname : typeName? fields = some name) (ht : TypeCompiler.builtin.get? name = some t) (n : Nat) :
    (builtin options).readWithin (n + 1) (.obj fields) =
      t.read ((builtin options).readWithin n) fields := by
  rw [readWithin]
  simp only [hname, builtin, ht]

/-- The fields hold a schema: whatever the fields of the top of a schema are, the schema can be
read back with any bound on the depth that is no less than its height. -/
structure Stored (options : CompilerOptions) (fields : Dict Json) (s : Schema) : Prop where
  plain : fields.get? "$id" = none ∧ fields.get? "definitions" = none
  deep : ∀ fields', Agrees fields fields' → s.height ≤ (Json.obj fields').depth
  reads : ∀ fields', Agrees fields fields' → ∀ m, s.height ≤ m →
    (builtin options).readWithin m (.obj fields') = .ok s

theorem exists_stored (options : CompilerOptions) {n : Nat} {s : Schema} (hn : s.height ≤ n)
    (hs : s.Everywhere Schema.Normal) :
    ∃ fields, (builtin options).writeWithin n s = .ok (.obj fields) ∧ Stored options fields s := by
  induction n generalizing s with
  | zero => exact absurd hn (Nat.not_le_of_lt s.height_pos)
  | succ n ih =>
    obtain ⟨t, ht, hfaithful⟩ := TypeCompiler.exists_faithful hs.root
    have hchild : ∀ c ∈ s.children, ∃ fields,
        (builtin options).writeWithin n c = .ok (.obj fields) ∧ Stored options fields c := by
      intro c hc
      have hlt := Schema.height_lt_of_mem_children hc
      exact ih (by omega) (hs.child hc)
    have hwrites : Writes ((builtin options).writeWithin n) s.children := by
      intro c hc
      obtain ⟨fields, hfields, hstored⟩ := hchild c hc
      exact ⟨fields, hfields, hstored.deep fields (Agrees.refl fields)⟩
    obtain ⟨fields, hwrite, hform⟩ := hfaithful hwrites
    have htype : s.typeName ≠ "" := by
      intro hempty
      rw [hempty] at ht
      cases ht
    refine ⟨fields, ?_, hform.plain, fun fields' hf => ?_, fun fields' hf m hm => ?_⟩
    · rw [writeWithin_succ ht]
      exact hwrite
    · refine Schema.height_le_succ fun c hc => ?_
      obtain ⟨key, value, hid, hdefinitions, hget, hle⟩ := hform.deep c hc
      have hmem := Dict.mem_of_get? ((hf key hid hdefinitions).trans hget)
      exact Nat.le_trans hle (Json.depth_le_depthFields hmem)
    · obtain ⟨m, rfl⟩ : ∃ k, m = k + 1 := ⟨m - 1, by have := s.height_pos; omega⟩
      have hinv : Inverts ((builtin options).readWithin m) ((builtin options).writeWithin n)
          s.children := by
        intro c hc j hj
        obtain ⟨cfields, hcfields, hstored⟩ := hchild c hc
        rw [hj] at hcfields
        obtain rfl := Except.ok.inj hcfields
        have hlt := Schema.height_lt_of_mem_children hc
        exact hstored.reads cfields (Agrees.refl cfields) m (by omega)
      have hname : typeName? fields' = some s.typeName :=
        Compile.typeName?_eq_some.2 ⟨(hf _ (by simp) (by simp)).trans hform.type, htype⟩
      rw [readWithin_succ hname ht]
      exact hform.reads _ hinv fields' hf

/-! ## The id and the definitions -/

theorem readId_of_get? {fields : Dict Json} {id : Option String}
    (h : fields.get? "$id" = id.map .str) : readId fields = .ok id := by
  unfold readId
  rw [h]
  cases id <;> rfl

/-- A schema with its id is read back, whether or not definitions are added to its fields. -/
theorem exists_writeWithId (options : CompilerOptions) (id : Option String) {s : Schema}
    (hs : s.Everywhere Schema.Normal) :
    ∃ fields, (builtin options).writeWithId id s = .ok fields ∧
      fields.get? "definitions" = none ∧
      ∀ fields' : Dict Json, (∀ key, key ≠ "definitions" → fields'.get? key = fields.get? key) →
        readId fields' = .ok id ∧ (builtin options).read (.obj fields') = .ok s := by
  obtain ⟨fields, hwrite, hstored⟩ := exists_stored options (Nat.le_refl s.height) hs
  refine ⟨addOption fields "$id" (id.map .str), ?_, ?_, fun fields' hf => ⟨?_, ?_⟩⟩
  · unfold writeWithId write
    rw [hwrite]
    rfl
  · rw [get?_addOption, if_neg (by simp), hstored.plain.2]
  · refine readId_of_get? ?_
    rw [hf _ (by simp), get?_addOption, if_pos rfl, hstored.plain.1, Option.or_none]
  · have hagrees : Agrees fields fields' := by
      intro key hid hdefinitions
      rw [hf key hdefinitions, get?_addOption, if_neg (Ne.symm hid)]
    exact hstored.reads fields' hagrees _ (hstored.deep fields' hagrees)

theorem exists_writeDefinition (d : DefinitionSchema)
    (hs : d.schema.Everywhere Schema.Normal) :
    ∃ fields, (builtin options).writeWithId d.id d.schema = .ok fields ∧
      (builtin options).readDefinition (.obj fields) = .ok d := by
  obtain ⟨fields, hwrite, -, hread⟩ := exists_writeWithId options d.id hs
  obtain ⟨hid, hschema⟩ := hread fields fun _ _ => rfl
  refine ⟨fields, hwrite, ?_⟩
  unfold readDefinition
  simp only [hid, hschema]
  rfl

/-- **A whole schema is read back if its nodes are normal.** -/
theorem exists_writeTop {top : TopSchema}
    (hs : top.Everywhere Schema.Normal) :
    ∃ json, (builtin options).writeTop top = .ok json ∧
      (builtin options).readTop json = .ok top := by
  obtain ⟨id, definitions, body⟩ := top
  obtain ⟨fields, hwrite, hnone, hread⟩ := exists_writeWithId options id
    (hs body (by simp [TopSchema.roots]))
  have hdefinition : ∀ e ∈ definitions, ∃ fields,
      (builtin options).writeWithId e.2.id e.2.schema = .ok fields ∧
        (builtin options).readDefinition (.obj fields) = .ok e.2 := by
    intro e he
    refine exists_writeDefinition e.2 (hs e.2.schema ?_)
    exact List.mem_cons_of_mem _ (List.mem_map.2 ⟨e, he, rfl⟩)
  cases definitions with
  | nil =>
    obtain ⟨hid, hbody⟩ := hread fields fun _ _ => rfl
    have hdefinitions : (builtin options).readDefinitions fields = .ok [] := by
      unfold readDefinitions
      rw [hnone]
    refine ⟨.obj fields, ?_, ?_⟩
    · unfold writeTop
      rw [hwrite]
      rfl
    · unfold readTop
      simp only [hid, hdefinitions, hbody]
      rfl
  | cons first rest =>
    obtain ⟨written, hwritten⟩ := exists_mapM_eq_ok
      (fun (e : String × DefinitionSchema) => do
        return (e.1, Json.obj (← (builtin options).writeWithId e.2.id e.2.schema)))
      (first :: rest) fun e he => by
        obtain ⟨fields, hfields, -⟩ := hdefinition e he
        exact ⟨(e.1, .obj fields), by rw [hfields]; rfl⟩
    obtain ⟨hid, hbody⟩ := hread (Dict.insert fields "definitions" (.obj written))
      fun key hkey => by rw [Dict.get?_insert, if_neg (Ne.symm hkey)]
    have hback : written.mapM (fun (e : String × Json) => do
        return (e.1, ← (builtin options).readDefinition e.2)) = .ok (first :: rest) := by
      refine mapM_inverse hwritten fun e he j hj => ?_
      obtain ⟨fields, hfields, hdef⟩ := hdefinition e he
      rw [hfields] at hj
      obtain rfl := Except.ok.inj hj
      show ((builtin options).readDefinition (.obj fields) >>= _) = _
      rw [hdef]
      rfl
    have hdefinitions :
        (builtin options).readDefinitions (Dict.insert fields "definitions" (.obj written)) =
          .ok (first :: rest) := by
      unfold readDefinitions
      rw [Dict.get?_insert, if_pos rfl]
      exact hback
    refine ⟨.obj (Dict.insert fields "definitions" (.obj written)), ?_, ?_⟩
    · exact bind_eq_ok.2 ⟨fields, hwrite, bind_eq_ok.2 ⟨written, hwritten, rfl⟩⟩
    · unfold readTop
      simp only [hid, hdefinitions, hbody]
      rfl

end Compiler

/-! ## Compiled schemas -/

theorem Compile.Node.normal {r : Registry} {raw : RawSchema} {s : Schema}
    (h : Compile.Node r raw s) : s.Normal := by
  induction h with
  | boolean _ required default => cases default <;> simp [Schema.Normal]
  | null _ required isNull => exact isNull
  | number _ required default => cases default <;> simp [Schema.Normal, Json.ofBinary64]
  | integer _ required default => cases default <;> simp [Schema.Normal, Json.ofInt64]
  | string _ required default => cases default <;> simp [Schema.Normal]
  | array _ required isArr =>
    rintro rfl
    cases isArr _ rfl
  | object _ required isObj =>
    rintro rfl
    cases isObj _ rfl
  | combine _ required isSet => exact isSet
  | ref _ required isSet => exact isSet
  | inlined _ _ _ _ ih => exact ih

namespace Compiler

/-- **Compiled schemas are read back from their JSON form.** -/
theorem readTop_writeTop (options : CompilerOptions) (raw : Json) {top : TopSchema}
    (h : ((builtin options).compile raw).value? = some top) :
    ∃ json, (builtin options).writeTop top = .ok json ∧
      (builtin options).readTop json = .ok top := by
  obtain ⟨fields, names, hfrom⟩ := compiledFrom_of_value? h
  refine exists_writeTop fun root hroot node hnode => ?_
  obtain ⟨raw, hraw⟩ := hfrom.built hroot hnode
  exact hraw.normal

/-- An array of links, each of which may refer to a next one. -/
def chainRaw : Json :=
  .obj [("$id", .str "chain"),
    ("definitions", .obj [("link", .obj [
      ("properties", .obj [
        ("end", .obj [("default", .null), ("type", .str "null")]),
        ("next", .obj [("$ref", .str "#/definitions/link"), ("type", .str "ref")])]),
      ("type", .str "object")])]),
    ("items", .obj [("$ref", .str "#/definitions/link"), ("type", .str "ref")]),
    ("type", .str "array")]

/-- What `chainRaw` compiles to. -/
def chain : TopSchema :=
  let link : Schema := .ofKind (.object
    { properties := some [("end", ⟨false, some .null, .null⟩),
        ("next", .ofKind (.ref "#/definitions/link"))]
      regexNameProperties := none
      propertyNames := none
      dependencies := none
      requiredProperties := []
      allowAdditionalProperties := false
      silentIgnore := false })
  { id := some "chain"
    definitions := [("link", ⟨none, link⟩)]
    schema := .ofKind (.array link false) }

set_option maxRecDepth 10000 in
theorem readTop_writeTop_chain :
    ((builtin {}).compile chainRaw).value? = some chain ∧
      ∃ json, (builtin {}).writeTop chain = .ok json ∧ (builtin {}).readTop json = .ok chain :=
  ⟨rfl, readTop_writeTop {} chainRaw rfl⟩

end Compiler

end DataSchema
