import DataSchema.Proofs.Compile.Agree

/-!
# Raw schemas with changed schemas in them

`RawSchema.mapChildren` changes the schemas that stand directly in a raw schema and keeps all other
fields. The schemas in the result are the changed ones (`partsOf_of_resemble`), so a raw schema is
`Similar` to it if the schemas in it correspond to what they become (`similar_mapped`).

Compiling ignores the id and the definitions of a raw schema that is not the whole, so raw schemas
are compared up to these (`Resemble`).
-/

namespace DataSchema

namespace RawSchema

/-- Changes a raw schema, where the value is the fields of one. -/
def mapFields (g : RawSchema → RawSchema) : Json → Json
  | .obj fields => .obj (g fields)
  | other => other

/-- Changes raw schemas that are listed by name. -/
def mapNamed (g : RawSchema → RawSchema) : Json → Json
  | .obj fields => .obj (fields.map fun e => (e.1, mapFields g e.2))
  | other => other

/-- Changes the raw schemas of a list. -/
def mapGrouped (g : RawSchema → RawSchema) : Json → Json
  | .arr items => .arr (items.map (mapFields g))
  | other => other

/-- What becomes of a field of a type when the raw schemas in it are changed. -/
def mapField (g : RawSchema → RawSchema) : String → String → Json → Json
  | "array", "items" => mapFields g
  | "object", "properties" => mapNamed g
  | "object", "propertyNames" => mapFields g
  | "combine", "allOf" => mapGrouped g
  | "combine", "anyOf" => mapGrouped g
  | "combine", "oneOf" => mapGrouped g
  | _, _ => id

/-- Changes the raw schemas that stand directly in one. -/
def mapChildren (g : RawSchema → RawSchema) (raw : RawSchema) : RawSchema :=
  match Compiler.typeName? raw with
  | some type => raw.map fun e => (e.1, mapField g type e.1 e.2)
  | none => raw

end RawSchema

namespace Compile

variable {raw raw' f : RawSchema} {g : RawSchema → RawSchema} {j : Json} {field : String}

/-! ## Look-ups -/

theorem mapField_of_not_mem (g : RawSchema → RawSchema) (type : String)
    (h : field ∉ RawSchema.holders) : RawSchema.mapField g type field = id := by
  unfold RawSchema.mapField
  split <;> first | rfl | exact absurd (by decide) h

theorem get?_mapChildren (g : RawSchema → RawSchema) (raw : RawSchema) (field : String) :
    (raw.mapChildren g).get? field = match Compiler.typeName? raw with
      | some type => (raw.get? field).map (RawSchema.mapField g type field)
      | none => raw.get? field := by
  unfold RawSchema.mapChildren
  cases Compiler.typeName? raw with
  | none => rfl
  | some type => exact Dict.get?_map_entries raw (RawSchema.mapField g type) field

theorem get?_mapChildren_of_not_mem (g : RawSchema → RawSchema) (raw : RawSchema)
    (h : field ∉ RawSchema.holders) : (raw.mapChildren g).get? field = raw.get? field := by
  rw [get?_mapChildren]
  split
  · rw [mapField_of_not_mem g _ h, Option.map_id, id_eq]
  · rfl

theorem keys_mapChildren (g : RawSchema → RawSchema) (raw : RawSchema) :
    Dict.keys (raw.mapChildren g) = Dict.keys raw := by
  unfold RawSchema.mapChildren
  split
  · simp [Dict.keys]
  · rfl

theorem typeName?_mapChildren (g : RawSchema → RawSchema) (raw : RawSchema) :
    Compiler.typeName? (raw.mapChildren g) = Compiler.typeName? raw :=
  typeName?_congr (congrArg _ (get?_mapChildren_of_not_mem g raw (by decide)))

/-- Raw schemas with the same fields, other than those that are read for whole schemas only. -/
def Resemble (raw raw' : RawSchema) : Prop :=
  ∀ field, field ≠ "$id" → field ≠ "definitions" → raw.get? field = raw'.get? field

theorem Resemble.refl (raw : RawSchema) : Resemble raw raw := fun _ _ _ => rfl

theorem Resemble.trans {raw' raw'' : RawSchema} (h : Resemble raw raw') (h' : Resemble raw' raw'') :
    Resemble raw raw'' :=
  fun field hid hdefs => (h field hid hdefs).trans (h' field hid hdefs)

theorem Resemble.typeName? {raw' : RawSchema} (h : Resemble raw raw') :
    Compiler.typeName? raw = Compiler.typeName? raw' :=
  typeName?_congr (congrArg _ (h "type" (by decide) (by decide)))

theorem mapField_id (type field : String) : RawSchema.mapField id type field = id := by
  have hfields : RawSchema.mapFields id = id := by
    funext j
    cases j <;> rfl
  have hnamed : RawSchema.mapNamed id = id := by
    funext j
    cases j <;> simp [RawSchema.mapNamed, hfields]
  have hgrouped : RawSchema.mapGrouped id = id := by
    funext j
    cases j <;> simp [RawSchema.mapGrouped, hfields]
  unfold RawSchema.mapField
  split <;> first | exact hfields | exact hnamed | exact hgrouped | rfl

theorem resemble_mapChildren_id (raw : RawSchema) : Resemble raw (raw.mapChildren id) := by
  intro field _ _
  rw [get?_mapChildren]
  split
  · rw [mapField_id, Option.map_id, id_eq]
  · rfl

/-! ## Fields that are not set -/

theorem mapFields_eq_null (j : Json) : RawSchema.mapFields g j = .null ↔ j = .null := by
  cases j <;> simp [RawSchema.mapFields]

theorem mapNamed_eq_null (j : Json) : RawSchema.mapNamed g j = .null ↔ j = .null := by
  cases j <;> simp [RawSchema.mapNamed]

theorem mapGrouped_eq_null (j : Json) : RawSchema.mapGrouped g j = .null ↔ j = .null := by
  cases j <;> simp [RawSchema.mapGrouped]

theorem mapField_eq_null (g : RawSchema → RawSchema) (type field : String) (j : Json) :
    RawSchema.mapField g type field j = .null ↔ j = .null := by
  unfold RawSchema.mapField
  split
  · exact mapFields_eq_null j
  · exact mapNamed_eq_null j
  · exact mapFields_eq_null j
  · exact mapGrouped_eq_null j
  · exact mapGrouped_eq_null j
  · exact mapGrouped_eq_null j
  · exact Iff.rfl

theorem present_map {change : Json → Json} (h : ∀ j, change j = .null ↔ j = .null)
    (j : Option Json) : Json.present (j.map change) = (Json.present j).map change := by
  cases j with
  | none => rfl
  | some j =>
    by_cases hj : j = .null
    · subst hj
      rw [Option.map_some, (h .null).2 rfl]
      rfl
    · have hchange : change j ≠ .null := fun heq => hj ((h j).1 heq)
      rw [Json.present_of_ne_null (j := some j) (by simpa using hj), Option.map_some,
        Json.present_of_ne_null (by simpa using hchange)]

/-! ## The schemas in the result -/

/-- A schema that is given by its type alone stays as it is. -/
def KeepsShort (g : RawSchema → RawSchema) : Prop :=
  ∀ type, g [("type", .str type)] = [("type", .str type)]

theorem mapFields_of_error {d : Diagnostic} (h : normalize j = .error d) :
    RawSchema.mapFields g j = j := by
  cases j with
  | str | obj => cases h
  | null | bool | num | arr => rfl

theorem normalize_mapFields (hg : KeepsShort g) (h : normalize j = .ok f) :
    normalize (RawSchema.mapFields g j) = .ok (g f) := by
  cases j with
  | str type =>
    obtain rfl := Except.ok.inj h
    rw [hg type]
    rfl
  | obj fields =>
    obtain rfl := Except.ok.inj h
    rfl
  | null | bool | num | arr => cases h

theorem paired_mapFields {A : RawSchema → RawSchema → Prop} (hg : KeepsShort g)
    (h : ∀ f, normalize j = .ok f → A f (g f)) : Paired A j (RawSchema.mapFields g j) := by
  cases hj : normalize j with
  | error d =>
    rw [mapFields_of_error hj]
    exact .same hj
  | ok f => exact .fields hj (normalize_mapFields hg hj) (h f hj)

theorem get?_of_resemble (h : Resemble raw' (raw.mapChildren g)) {type : String}
    (htype : Compiler.typeName? raw = some type) (hfield : field ∈ RawSchema.holders) :
    raw'.get? field = (raw.get? field).map (RawSchema.mapField g type field) := by
  have hid : field ≠ "$id" := by
    rintro rfl
    exact absurd hfield (by decide)
  have hdefinitions : field ≠ "definitions" := by
    rintro rfl
    exact absurd hfield (by decide)
  rw [h field hid hdefinitions, get?_mapChildren, htype]

/-- The values that are compiled as schemas are those of the raw schema, expanded. -/
theorem partsOf_of_resemble (h : Resemble raw' (raw.mapChildren g)) {type : String}
    (htype : Compiler.typeName? raw = some type) :
    raw'.partsOf type = (raw.partsOf type).map (RawSchema.mapFields g) := by
  have hget : ∀ field ∈ RawSchema.holders,
      raw'.get? field = (raw.get? field).map (RawSchema.mapField g type field) :=
    fun field hfield => get?_of_resemble h htype hfield
  have hsingle : ∀ field ∈ RawSchema.holders,
      RawSchema.mapField g type field = RawSchema.mapFields g →
      raw'.single field = (raw.single field).map (RawSchema.mapFields g) := by
    intro field hfield hmap
    rw [RawSchema.single, RawSchema.single, hget field hfield, hmap]
    cases raw.get? field <;> rfl
  have hnamed : ∀ field ∈ RawSchema.holders,
      RawSchema.mapField g type field = RawSchema.mapNamed g →
      raw'.named field = (raw.named field).map (RawSchema.mapFields g) := by
    intro field hfield hmap
    rw [RawSchema.named, RawSchema.named, hget field hfield, hmap]
    cases raw.get? field with
    | none => rfl
    | some j => cases j <;> simp [RawSchema.mapNamed]
  have hgrouped : ∀ field ∈ RawSchema.holders,
      RawSchema.mapField g type field = RawSchema.mapGrouped g →
      raw'.grouped field = (raw.grouped field).map (RawSchema.mapFields g) := by
    intro field hfield hmap
    rw [RawSchema.grouped, RawSchema.grouped, hget field hfield, hmap]
    cases raw.get? field with
    | none => rfl
    | some j => cases j <;> simp [RawSchema.mapGrouped]
  unfold RawSchema.partsOf
  split
  · exact hsingle _ (by decide) rfl
  · rw [List.map_append, hnamed _ (by decide) rfl, hsingle _ (by decide) rfl]
  · rw [List.map_append, List.map_append, hgrouped _ (by decide) rfl, hgrouped _ (by decide) rfl,
      hgrouped _ (by decide) rfl]
  · rfl

theorem mem_children_of_resemble (hg : KeepsShort g) (h : Resemble raw' (raw.mapChildren g))
    (hf : f ∈ raw.children) : g f ∈ raw'.children := by
  obtain ⟨part, hpart, hnormal⟩ := RawSchema.mem_children.1 hf
  have htype' : Compiler.typeName? raw' = Compiler.typeName? raw := by
    rw [h.typeName?, typeName?_mapChildren]
  refine RawSchema.mem_children.2 ⟨_, ?_, normalize_mapFields hg hnormal⟩
  rw [RawSchema.parts] at hpart ⊢
  rw [htype']
  cases htype : Compiler.typeName? raw with
  | none =>
    rw [htype] at hpart
    cases hpart
  | some type =>
    rw [htype] at hpart
    show RawSchema.mapFields g part ∈ raw'.partsOf type
    rw [partsOf_of_resemble h htype]
    exact List.mem_map_of_mem hpart

theorem exists_mem_children_mapChildren (hg : KeepsShort g) {c : RawSchema}
    (hc : c ∈ (raw.mapChildren g).children) : ∃ f ∈ raw.children, c = g f := by
  obtain ⟨part', hpart', hnormal⟩ := RawSchema.mem_children.1 hc
  rw [RawSchema.parts, typeName?_mapChildren] at hpart'
  cases htype : Compiler.typeName? raw with
  | none =>
    rw [htype] at hpart'
    cases hpart'
  | some type =>
    rw [htype] at hpart'
    have hparts : (raw.mapChildren g).partsOf type =
        (raw.partsOf type).map (RawSchema.mapFields g) := partsOf_of_resemble (.refl _) htype
    have hpart' : part' ∈ (raw.mapChildren g).partsOf type := hpart'
    rw [hparts] at hpart'
    obtain ⟨part, hpart, rfl⟩ := List.mem_map.1 hpart'
    have hmem : part ∈ raw.parts := by rwa [RawSchema.parts, htype]
    cases hj : normalize part with
    | error d =>
      rw [mapFields_of_error hj, hj] at hnormal
      cases hnormal
    | ok f =>
      rw [normalize_mapFields hg hj] at hnormal
      exact ⟨f, RawSchema.mem_children.2 ⟨part, hmem, hj⟩, (Except.ok.inj hnormal).symm⟩

/-- **A raw schema is similar to what it becomes** if the schemas in it correspond to what they
become. Properties have to correspond as they are compiled: if no name stands twice, required if
they are listed at first. -/
theorem similar_mapped {A : RawSchema → RawSchema → Prop} (hg : KeepsShort g)
    (h : Resemble raw' (raw.mapChildren g)) (hA : ∀ f ∈ raw.children, A f (g f))
    (hproperty : Compiler.typeName? raw = some "object" → ∀ fields,
      raw.get? "properties" = some (.obj fields) → ∀ e ∈ fields, ∀ f ∈ raw.children,
        normalize e.2 = .ok f → ∀ required,
          ((Dict.keys fields).Nodup → required = (listedNames raw).contains e.1) →
            PairedProperty A required f (g f)) :
    Similar A raw raw' := by
  have hchild : ∀ {type part}, Compiler.typeName? raw = some type → part ∈ raw.partsOf type →
      ∀ f, normalize part = .ok f → f ∈ raw.children := by
    intro type part htype hpart f hf
    have hmem : part ∈ raw.parts := by rwa [RawSchema.parts, htype]
    exact RawSchema.mem_children.2 ⟨part, hmem, hf⟩
  have hpaired : ∀ {type part}, Compiler.typeName? raw = some type → part ∈ raw.partsOf type →
      Paired A part (RawSchema.mapFields g part) := fun htype hpart =>
    paired_mapFields hg fun f hf => hA f (hchild htype hpart f hf)
  constructor
  case plain =>
    intro field hfield
    have hfield : field ∉ RawSchema.holders ∧ field ≠ "$id" ∧ field ≠ "definitions" ∧
        field ≠ "nameType" := by
      simpa [structural, RawSchema.holders, not_or, and_assoc] using hfield
    obtain ⟨hholder, hid, hdefinitions, -⟩ := hfield
    rw [h field hid hdefinitions, get?_mapChildren_of_not_mem g raw hholder]
  case items =>
    intro htype
    rw [get?_of_resemble h htype (by decide)]
    cases hj : raw.get? "items" with
    | none => exact .none
    | some part => exact .some (hpaired htype (by simp [RawSchema.partsOf, RawSchema.single, hj]))
  case group =>
    intro htype name hname
    have hholder : name ∈ RawSchema.holders ∧
        RawSchema.mapField g "combine" name = RawSchema.mapGrouped g := by
      simp only [List.mem_cons, List.not_mem_nil, or_false] at hname
      rcases hname with rfl | rfl | rfl <;> exact ⟨by decide, rfl⟩
    rw [get?_of_resemble h htype hholder.1, hholder.2]
    cases hj : raw.get? name with
    | none => exact .none
    | some j => cases j with
      | arr items =>
        refine .some (.arr (List.forall₂_map_right_iff.2
          (List.forall₂_same.2 fun part hpart => ?_)))
        have hgroup : part ∈ raw.grouped name := by simpa [RawSchema.grouped, hj] using hpart
        refine hpaired htype ?_
        simp only [List.mem_cons, List.not_mem_nil, or_false] at hname
        rcases hname with rfl | rfl | rfl <;> simp [RawSchema.partsOf, hgroup]
      | null | bool | num | str | obj => exact .some (.same (by simp))
  case properties =>
    intro htype
    rw [get?_of_resemble h htype (by decide)]
    cases hj : raw.get? "properties" with
    | none => exact .none
    | some j => cases j with
      | obj fields =>
        refine .some (.obj (List.forall₂_map_right_iff.2 (List.forall₂_same.2 fun e he => ?_)))
        have hnamed : e.2 ∈ raw.named "properties" := by
          simpa [RawSchema.named, hj] using ⟨e.1, he⟩
        refine ⟨rfl, fun required hrequired => paired_mapFields hg fun f hf => ?_⟩
        have hmem : f ∈ raw.children := hchild htype (List.mem_append_left _ hnamed) f hf
        exact hproperty htype fields hj e he f hmem hf required hrequired
      | null | bool | num | str | arr => exact .some (.same (by simp))
  case propertyNames =>
    intro htype
    rw [get?_of_resemble h htype (by decide)]
    cases hj : raw.get? "propertyNames" with
    | none => exact .none
    | some part => exact .some (hpaired htype (by simp [RawSchema.partsOf, RawSchema.single, hj]))

end Compile

end DataSchema
