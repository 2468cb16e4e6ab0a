import DataSchema.Proofs.Form.Kind

/-!
# The form of schemas that hold others is read back

Arrays, objects and combinations keep schemas in their fields. `Carries` is the law of one such
field: it is at least as deep as the schemas in it are high, and is read back if they are. Each
field that is written has this law (`carries_properties` to `carries_group`), and the kinds follow
(`faithful_array`, `faithful_object`, `faithful_combine`).
-/

namespace DataSchema.Form

variable {α : Type} {write : Writer}

/-! ## Fields that carry schemas -/

/-- A field carries schemas: it is as deep as they are high, and it is read back as `a`. -/
structure Carries (write : Writer) (ss : List Schema)
    (read : Reader → Dict Json → Except FormError α) (name : String) (field : Option Json)
    (a : α) : Prop where
  deep : ∀ c ∈ ss, ∃ j ∈ field, c.height ≤ j.depth
  reads : ∀ nested, Inverts nested write ss →
    ∀ json : Dict Json, json.get? name = field → read nested json = .ok a

namespace Carries

variable {ss : List Schema} {read : Reader → Dict Json → Except FormError α} {name : String}
  {field : Option Json} {a : α} {fields fields' : Dict Json}

theorem deep_get? (h : Carries write ss read name field a) (hget : fields.get? name = field)
    (hid : name ≠ "$id") (hdefinitions : name ≠ "definitions") :
    ∀ c ∈ ss, ∃ key value, key ≠ "$id" ∧ key ≠ "definitions" ∧
      fields.get? key = some value ∧ c.height ≤ value.depth := by
  intro c hc
  obtain ⟨j, hj, hle⟩ := h.deep c hc
  exact ⟨name, j, hid, hdefinitions, hget.trans hj, hle⟩

theorem reads_agrees (h : Carries write ss read name field a) (hget : fields.get? name = field)
    (hid : name ≠ "$id") (hdefinitions : name ≠ "definitions") {nested : Reader}
    (hinv : Inverts nested write ss) (hf : Agrees fields fields') :
    read nested fields' = .ok a :=
  h.reads nested hinv fields' ((hf name hid hdefinitions).trans hget)

end Carries

theorem addWritten_eq (fields : Dict Json) (name : String) (value : Option α)
    (w : α → Except FormError Json) :
    addWritten fields name value w = addOption fields name <$> value.mapM w := by
  cases value with
  | none => rfl
  | some a =>
    change (w a >>= fun j => pure (fields.insert name j)) = _ <$> (some <$> w a)
    cases w a <;> rfl

/-- The value that a schema is written as is as deep as the schema is high. -/
theorem Writes.height_le {ss : List Schema} (h : Writes write ss) {s : Schema} (hs : s ∈ ss)
    {j : Json} (hj : write s = .ok j) : s.height ≤ j.depth := by
  obtain ⟨fields, hfields, hle⟩ := h s hs
  rw [hj] at hfields
  obtain rfl := Except.ok.inj hfields
  exact hle

/-- Elements with a schema each are written, every schema stands in what is written, and elements
that are read back one by one are read back as a list. -/
theorem exists_row {β γ : Type} (schema : β → Schema) (wrap : β → Json → γ) {bs : List β}
    (h : Writes write (bs.map schema)) :
    ∃ row, bs.mapM (fun b => do return wrap b (← write (schema b))) = .ok row ∧
      (∀ s ∈ bs.map schema, ∃ b j, wrap b j ∈ row ∧ s.height ≤ j.depth) ∧
      ∀ read : γ → Except FormError β,
        (∀ b, schema b ∈ bs.map schema → ∀ j, write (schema b) = .ok j →
          read (wrap b j) = .ok b) → row.mapM read = .ok bs := by
  have hmem : ∀ b ∈ bs, schema b ∈ bs.map schema := fun b hb => List.mem_map.2 ⟨b, hb, rfl⟩
  obtain ⟨row, hrow⟩ := exists_mapM_eq_ok
    (fun b => do return wrap b (← write (schema b))) bs fun b hb => by
      obtain ⟨fields, hfields, -⟩ := h (schema b) (hmem b hb)
      exact ⟨wrap b (.obj fields), by rw [hfields]; rfl⟩
  refine ⟨row, hrow, fun s hs => ?_, fun read hread => mapM_inverse hrow fun b hb c hc => ?_⟩
  · obtain ⟨b, hb, rfl⟩ := List.mem_map.1 hs
    obtain ⟨c, hmem, hc⟩ := mem_of_mapM_eq_ok hrow hb
    obtain ⟨j, hj, heq⟩ := bind_eq_ok.1 hc
    obtain rfl := Except.ok.inj heq
    exact ⟨b, j, hmem, h.height_le hs hj⟩
  · obtain ⟨j, hj, heq⟩ := bind_eq_ok.1 hc
    obtain rfl := Except.ok.inj heq
    exact hread b (hmem b hb) j hj

theorem carries_properties {ps : Option (List (String × Schema))}
    (h : Writes write ((ps.getD []).map (·.2))) :
    ∃ field, ps.mapM (writeProperties write) = .ok field ∧
      Carries write ((ps.getD []).map (·.2)) readProperties "properties" field ps := by
  cases ps with
  | none =>
    refine ⟨none, rfl, by simp, fun nested _ json hget => ?_⟩
    unfold readProperties
    rw [hget]
  | some ps =>
    obtain ⟨row, hrow, hdeep, hreads⟩ := exists_row Prod.snd (fun p j => (p.1, j)) h
    have hfield : writeProperties write ps = .ok (.obj row) := bind_eq_ok.2 ⟨row, hrow, rfl⟩
    refine ⟨some (.obj row), congrArg (some <$> ·) hfield, fun c hc => ?_, fun nested hinv json hget => ?_⟩
    · obtain ⟨p, j, hmem, hle⟩ := hdeep c hc
      exact ⟨_, rfl, Nat.le_trans hle (Nat.le_of_lt (Json.depth_lt_obj hmem))⟩
    · unfold readProperties
      rw [hget]
      change (row.mapM _ >>= _) = _
      rw [hreads _ fun p hp j hj => ?_]
      · rfl
      · show (nested j >>= _) = _
        rw [hinv p.2 hp j hj]
        rfl

theorem carries_patterns {ps : Option (List (Pattern × Schema))}
    (h : Writes write ((ps.getD []).map (·.2))) :
    ∃ field, ps.mapM (writePatterns write) = .ok field ∧
      Carries write ((ps.getD []).map (·.2)) readPatterns "regexNameProperties" field ps := by
  cases ps with
  | none =>
    refine ⟨none, rfl, by simp, fun nested _ json hget => ?_⟩
    unfold readPatterns
    rw [hget]
  | some ps =>
    obtain ⟨row, hrow, hdeep, hreads⟩ := exists_row Prod.snd
      (fun p j => Json.obj [("pattern", .str p.1.source), ("schema", j)]) h
    have hfield : writePatterns write ps = .ok (.arr row) := bind_eq_ok.2 ⟨row, hrow, rfl⟩
    refine ⟨some (.arr row), congrArg (some <$> ·) hfield, fun c hc => ?_, fun nested hinv json hget => ?_⟩
    · obtain ⟨p, j, hmem, hle⟩ := hdeep c hc
      have hitem : j.depth < (Json.obj [("pattern", .str p.1.source), ("schema", j)]).depth :=
        Json.depth_lt_obj (e := ("schema", j)) (by simp)
      have harr := Json.depth_lt_arr hmem
      exact ⟨_, rfl, by omega⟩
    · unfold readPatterns
      rw [hget]
      change (row.mapM _ >>= _) = _
      rw [hreads _ fun p hp j hj => ?_]
      · rfl
      · unfold readPattern
        change ((Pattern.ofSource p.1.source).mapError _ >>= fun pattern => nested j >>= _) = _
        rw [Pattern.ofSource_source, hinv p.2 hp j hj]
        rfl

theorem carries_group (name : String) {ss : Option (List Schema)}
    (h : Writes write (ss.getD [])) :
    ∃ field, ss.mapM (writeGroup write) = .ok field ∧
      Carries write (ss.getD []) (fun read json => readGroup read json name) name field ss := by
  cases ss with
  | none =>
    refine ⟨none, rfl, by simp, fun nested _ json hget => ?_⟩
    unfold readGroup
    rw [hget]
  | some ss =>
    obtain ⟨row, hrow, hdeep, hreads⟩ := exists_row id (fun _ j => j)
      (show Writes write (ss.map id) by simpa using h)
    simp only [List.map_id, id, bind_pure] at hrow hdeep hreads
    have hfield : writeGroup write ss = .ok (.arr row) := bind_eq_ok.2 ⟨row, hrow, rfl⟩
    refine ⟨some (.arr row), congrArg (some <$> ·) hfield, fun c hc => ?_, fun nested hinv json hget => ?_⟩
    · obtain ⟨_, j, hmem, hle⟩ := hdeep c hc
      exact ⟨_, rfl, Nat.le_trans hle (Nat.le_of_lt (Json.depth_lt_arr hmem))⟩
    · unfold readGroup
      rw [hget]
      change (row.mapM _ >>= _) = _
      rw [hreads _ fun s hs j hj => hinv s hs j hj]
      rfl

theorem carries_propertyNames {s : Option Schema} (h : Writes write s.toList) :
    ∃ field, s.mapM write = .ok field ∧
      Carries write s.toList readPropertyNames "propertyNames" field s := by
  cases s with
  | none =>
    refine ⟨none, rfl, by simp, fun nested _ json hget => ?_⟩
    unfold readPropertyNames
    rw [hget]
  | some s =>
    obtain ⟨fields, hfields, hle⟩ := h s (by simp)
    refine ⟨some (.obj fields), congrArg (some <$> ·) hfields, fun c hc => ?_,
      fun nested hinv json hget => ?_⟩
    · obtain rfl : c = s := by simpa using hc
      exact ⟨_, rfl, hle⟩
    · unfold readPropertyNames
      rw [hget]
      show some <$> nested (.obj fields) = _
      rw [hinv s (by simp) _ hfields]
      rfl

/-! ## Kinds that hold schemas -/

variable {s : Schema}

/-- The fields of an array schema, given that of its items. -/
def arrayFields (s : Schema) (unique : Bool) (items : Json) : Dict Json :=
  ((base s).insert "unique" (.bool unique)).insert "items" items

theorem hasBase_arrayFields (s : Schema) (unique : Bool) (items : Json) :
    HasBase (arrayFields s unique items) s := by
  intro key hkey
  rw [arrayFields, Dict.get?_insert, Dict.get?_insert, if_neg (by rintro rfl; simp at hkey),
    if_neg (by rintro rfl; simp at hkey)]

theorem faithful_array {items : Schema} {unique : Bool} (hs : s.Normal)
    (hk : s.kind = .array items unique) :
    (TypeCompiler.composite Compile.array writeArray readArray).Faithful s := by
  obtain ⟨required, default, kind⟩ := s
  obtain rfl : kind = .array items unique := hk
  intro write hw
  obtain ⟨j, hj, hle⟩ := hw items (by simp [Schema.children])
  have hbase := hasBase_arrayFields ⟨required, default, .array items unique⟩ unique (.obj j)
  refine ⟨_, bind_eq_ok.2 ⟨_, hj, rfl⟩, hbase.type, by simp [Dict.get?_insert, get?_base],
    fun c hc => ?_, fun nested hinv fields' hf => ?_⟩
  · obtain rfl : c = items := by simpa [Schema.children] using hc
    exact ⟨"items", .obj j, by simp, by simp, by simp [Dict.get?_insert], hle⟩
  · have hunique : readFlag "array" "unique" (fun _ => "expected a boolean") fields' =
        .ok unique :=
      readFlag_of_get? (by rw [hf _ (by simp) (by simp)]; simp [Dict.get?_insert])
    have hitems : fields'.get? "items" = some (.obj j) := by
      rw [hf _ (by simp) (by simp)]
      simp [Dict.get?_insert]
    show readArray nested fields' = _
    unfold readArray
    rw [hbase.readBase hf hs, hunique]
    simp only [hitems, hinv items (by simp [Schema.children]) _ hj]
    rfl

/-- A list of texts is read back, also an empty one. -/
theorem readDecoded_of_reads {typeName field : String} {d : Decoder α} {form : α → Json}
    (h : d.Reads form) {json : Dict Json} {value : Option α}
    (hget : json.get? field = value.map form) :
    readDecoded typeName field d json = .ok value := by
  unfold readDecoded
  rw [hget]
  cases value with
  | none => rfl
  | some a =>
    rw [Option.map_some]
    split
    · cases ‹some (form a) = none›
    · next heq => exact absurd (Option.some.inj heq) (h.ne_null a)
    · next j _ heq =>
      obtain rfl : form a = j := Option.some.inj heq
      rw [h.decode]
      rfl

/-- The fields of an object schema, given those in which schemas stand. -/
def objectFields (s : Schema) (o : ObjectSchema) (properties patterns names : Option Json) :
    Dict Json :=
  let fields := (base s).insert "silentIgnore" (.bool o.silentIgnore)
  let fields := fields.insert "allowAdditionalProperties" (.bool o.allowAdditionalProperties)
  let fields := fields.insert "requiredProperties" (ofTexts o.requiredProperties)
  let fields := addOption fields "properties" properties
  let fields := addOption fields "regexNameProperties" patterns
  let fields := addOption fields "propertyNames" names
  addOption fields "dependencies"
    (o.dependencies.map fun ds => .obj (ds.map fun (name, names) => (name, ofTexts names)))

theorem hasBase_objectFields (s : Schema) (o : ObjectSchema)
    (properties patterns names : Option Json) :
    HasBase (objectFields s o properties patterns names) s := by
  intro key hkey
  simp only [List.mem_cons, List.not_mem_nil, or_false] at hkey
  rcases hkey with rfl | rfl | rfl <;>
    simp [objectFields, get?_addOption, Dict.get?_insert]

theorem writeObject_eq {o : ObjectSchema} (hk : s.kind = .object o) {w₁ w₂ w₃ : Option Json}
    (h₁ : o.properties.mapM (writeProperties write) = .ok w₁)
    (h₂ : o.regexNameProperties.mapM (writePatterns write) = .ok w₂)
    (h₃ : o.propertyNames.mapM write = .ok w₃) :
    writeObject write s = .ok (.obj (objectFields s o w₁ w₂ w₃)) := by
  unfold writeObject
  simp only [hk, addWritten_eq, h₁, h₂, h₃]
  rfl

theorem get?_objectFields (s : Schema) (o : ObjectSchema) (properties patterns names : Option Json) :
    (objectFields s o properties patterns names).get? "properties" = properties ∧
      (objectFields s o properties patterns names).get? "regexNameProperties" = patterns ∧
      (objectFields s o properties patterns names).get? "propertyNames" = names := by
  simp [objectFields, get?_addOption, Dict.get?_insert, get?_base]

theorem faithful_object {o : ObjectSchema} (hs : s.Normal) (hk : s.kind = .object o) :
    (TypeCompiler.composite Compile.object writeObject readObject).Faithful s := by
  obtain ⟨required, default, kind⟩ := s
  obtain rfl : kind = .object o := hk
  intro write hw
  obtain ⟨hw, hn⟩ := List.forall_mem_append.1 hw
  obtain ⟨hp, hr⟩ := List.forall_mem_append.1 hw
  obtain ⟨w₁, hw₁, hc₁⟩ := carries_properties hp
  obtain ⟨w₂, hw₂, hc₂⟩ := carries_patterns hr
  obtain ⟨w₃, hw₃, hc₃⟩ := carries_propertyNames hn
  have hbase := hasBase_objectFields ⟨required, default, .object o⟩ o w₁ w₂ w₃
  obtain ⟨hget₁, hget₂, hget₃⟩ := get?_objectFields ⟨required, default, .object o⟩ o w₁ w₂ w₃
  have hwrite : writeObject write ⟨required, default, .object o⟩ =
      .ok (.obj (objectFields ⟨required, default, .object o⟩ o w₁ w₂ w₃)) :=
    writeObject_eq rfl hw₁ hw₂ hw₃
  refine ⟨_, hwrite, hbase.type,
    by simp [objectFields, get?_addOption, Dict.get?_insert, get?_base], ?_,
    fun nested hinv fields' hf => ?_⟩
  · refine List.forall_mem_append.2 ⟨List.forall_mem_append.2 ⟨?_, ?_⟩, ?_⟩
    · exact hc₁.deep_get? hget₁ (by simp) (by simp)
    · exact hc₂.deep_get? hget₂ (by simp) (by simp)
    · exact hc₃.deep_get? hget₃ (by simp) (by simp)
  · obtain ⟨hinv, hinv₃⟩ := List.forall_mem_append.1 hinv
    obtain ⟨hinv₁, hinv₂⟩ := List.forall_mem_append.1 hinv
    have hproperties : readProperties nested fields' = .ok o.properties :=
      hc₁.reads_agrees hget₁ (by simp) (by simp) hinv₁ hf
    have hpatterns : readPatterns nested fields' = .ok o.regexNameProperties :=
      hc₂.reads_agrees hget₂ (by simp) (by simp) hinv₂ hf
    have hnames : readPropertyNames nested fields' = .ok o.propertyNames :=
      hc₃.reads_agrees hget₃ (by simp) (by simp) hinv₃ hf
    have hlisted : readDecoded "object" "requiredProperties" (Decoder.list Decoder.text) fields' =
        .ok (some o.requiredProperties) :=
      readDecoded_of_reads Decoder.reads_text.list (by
        rw [hf _ (by simp) (by simp)]
        simp [objectFields, get?_addOption, Dict.get?_insert, ofTexts])
    have hdependencies : readDecoded "object" "dependencies"
        (Decoder.dict (Decoder.list Decoder.text)) fields' = .ok o.dependencies :=
      readDecoded_of_reads Decoder.reads_text.list.dict (by
        rw [hf _ (by simp) (by simp)]
        simp [objectFields, get?_addOption, Dict.get?_insert, get?_base, ofTexts])
    have hallow : readFlag "object" "allowAdditionalProperties"
        (fun _ => "expected a boolean") fields' = .ok o.allowAdditionalProperties :=
      readFlag_of_get? (by
        rw [hf _ (by simp) (by simp)]
        simp [objectFields, get?_addOption, Dict.get?_insert])
    have hsilent : readFlag "object" "silentIgnore" (fun _ => "expected a boolean") fields' =
        .ok o.silentIgnore :=
      readFlag_of_get? (by
        rw [hf _ (by simp) (by simp)]
        simp [objectFields, get?_addOption, Dict.get?_insert])
    show readObject nested fields' = _
    unfold readObject
    rw [hbase.readBase hf hs]
    simp only [hlisted, hproperties, hpatterns, hnames, hdependencies, hallow, hsilent]
    cases o
    rfl

/-- The fields of a combination, given those of its groups. -/
def combineFields (s : Schema) (strategy : CombineStrategy) (allOf anyOf oneOf : Option Json) :
    Dict Json :=
  let fields := (base s).insert "strategy" (.str strategy.name)
  let fields := addOption fields "allOf" allOf
  let fields := addOption fields "anyOf" anyOf
  addOption fields "oneOf" oneOf

theorem hasBase_combineFields (s : Schema) (strategy : CombineStrategy)
    (allOf anyOf oneOf : Option Json) :
    HasBase (combineFields s strategy allOf anyOf oneOf) s := by
  intro key hkey
  simp only [List.mem_cons, List.not_mem_nil, or_false] at hkey
  rcases hkey with rfl | rfl | rfl <;>
    simp [combineFields, get?_addOption, Dict.get?_insert]

theorem writeCombine_eq {c : CombineSchema} (hk : s.kind = .combine c) {w₁ w₂ w₃ : Option Json}
    (h₁ : c.allOf.mapM (writeGroup write) = .ok w₁)
    (h₂ : c.anyOf.mapM (writeGroup write) = .ok w₂)
    (h₃ : c.oneOf.mapM (writeGroup write) = .ok w₃) :
    writeCombine write s = .ok (.obj (combineFields s c.strategy w₁ w₂ w₃)) := by
  unfold writeCombine
  simp only [hk, addWritten_eq, h₁, h₂, h₃]
  rfl

theorem get?_combineFields (s : Schema) (strategy : CombineStrategy)
    (allOf anyOf oneOf : Option Json) :
    (combineFields s strategy allOf anyOf oneOf).get? "allOf" = allOf ∧
      (combineFields s strategy allOf anyOf oneOf).get? "anyOf" = anyOf ∧
      (combineFields s strategy allOf anyOf oneOf).get? "oneOf" = oneOf := by
  simp [combineFields, get?_addOption, Dict.get?_insert, get?_base]

theorem ofName?_strategyName (strategy : CombineStrategy) :
    CombineStrategy.ofName? strategy.name = some strategy := by
  cases strategy <;> decide

theorem faithful_combine {c : CombineSchema} (hs : s.Normal) (hk : s.kind = .combine c) :
    (TypeCompiler.composite Compile.combine writeCombine readCombine).Faithful s := by
  obtain ⟨required, default, kind⟩ := s
  obtain rfl : kind = .combine c := hk
  intro write hw
  obtain ⟨hw, hone⟩ := List.forall_mem_append.1 hw
  obtain ⟨hall, hany⟩ := List.forall_mem_append.1 hw
  obtain ⟨w₁, hw₁, hc₁⟩ := carries_group "allOf" hall
  obtain ⟨w₂, hw₂, hc₂⟩ := carries_group "anyOf" hany
  obtain ⟨w₃, hw₃, hc₃⟩ := carries_group "oneOf" hone
  have hbase := hasBase_combineFields ⟨required, default, .combine c⟩ c.strategy w₁ w₂ w₃
  obtain ⟨hget₁, hget₂, hget₃⟩ :=
    get?_combineFields ⟨required, default, .combine c⟩ c.strategy w₁ w₂ w₃
  have hwrite : writeCombine write ⟨required, default, .combine c⟩ =
      .ok (.obj (combineFields ⟨required, default, .combine c⟩ c.strategy w₁ w₂ w₃)) :=
    writeCombine_eq rfl hw₁ hw₂ hw₃
  refine ⟨_, hwrite, hbase.type,
    by simp [combineFields, get?_addOption, Dict.get?_insert, get?_base], ?_,
    fun nested hinv fields' hf => ?_⟩
  · refine List.forall_mem_append.2 ⟨List.forall_mem_append.2 ⟨?_, ?_⟩, ?_⟩
    · exact hc₁.deep_get? hget₁ (by simp) (by simp)
    · exact hc₂.deep_get? hget₂ (by simp) (by simp)
    · exact hc₃.deep_get? hget₃ (by simp) (by simp)
  · obtain ⟨hinv, hinv₃⟩ := List.forall_mem_append.1 hinv
    obtain ⟨hinv₁, hinv₂⟩ := List.forall_mem_append.1 hinv
    have hstrategy : readStrategy fields' = .ok c.strategy := by
      have hget : fields'.get? "strategy" = some (.str c.strategy.name) := by
        rw [hf _ (by simp) (by simp)]
        simp [combineFields, get?_addOption, Dict.get?_insert]
      unfold readStrategy
      rw [hget]
      simp only [ofName?_strategyName]
    have hall : readGroup nested fields' "allOf" = .ok c.allOf :=
      hc₁.reads_agrees hget₁ (by simp) (by simp) hinv₁ hf
    have hany : readGroup nested fields' "anyOf" = .ok c.anyOf :=
      hc₂.reads_agrees hget₂ (by simp) (by simp) hinv₂ hf
    have hone : readGroup nested fields' "oneOf" = .ok c.oneOf :=
      hc₃.reads_agrees hget₃ (by simp) (by simp) hinv₃ hf
    show readCombine nested fields' = _
    unfold readCombine
    rw [hbase.readBase hf hs]
    simp only [hstrategy, hall, hany, hone]
    cases c
    rfl

end DataSchema.Form
