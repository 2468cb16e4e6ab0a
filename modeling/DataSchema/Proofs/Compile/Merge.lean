import DataSchema.Compile.Reference
import DataSchema.Proofs.Compile.Raw

/-!
# Merged raw schemas

A definition in place of a reference is compiled with what the reference overrides (`inherit`), and
a property that is listed as required with that (`asProperty`). A look-up in a merged raw schema
gives what the child sets, and else what the parent has (`get?_inherit`). Merging keeps the keys of
all objects sorted.
-/

namespace DataSchema.Compile

variable {raw f : RawSchema} {j : Json}

/-- What a property is compiled from. One that its object lists as required is, unless it says
otherwise. -/
def asProperty (required : Bool) (raw : RawSchema) : RawSchema :=
  if required then inherit [("required", .bool true)] raw else raw

/-! ## Entries and look-ups -/

theorem mem_inherit {parent child : RawSchema} {e : String × Json} (h : e ∈ inherit parent child) :
    e ∈ parent ∨ e ∈ child := by
  induction child generalizing parent with
  | nil => exact .inl h
  | cons field rest ih =>
    have h : e ∈ inherit (if field.2.isNull then parent else parent.insert field.1 field.2)
        rest := h
    rcases ih h with h | h
    · split at h
      · exact .inl h
      · rcases Dict.mem_insert h with rfl | h
        · exact .inr List.mem_cons_self
        · exact .inl h
    · exact .inr (List.mem_cons_of_mem _ h)

/-- A look-up in a merged raw schema. -/
theorem get?_inherit {child : RawSchema} (hnodup : (Dict.keys child).Nodup) (parent : RawSchema)
    (field : String) :
    (inherit parent child).get? field =
      (Json.present (child.get? field)).or (parent.get? field) := by
  induction child generalizing parent with
  | nil => rfl
  | cons e rest ih =>
    obtain ⟨key, value⟩ := e
    obtain ⟨hkey, hrest⟩ := List.nodup_cons.1 hnodup
    show (inherit (if value.isNull then parent else parent.insert key value) rest).get? field = _
    rw [ih hrest, Dict.get?_cons]
    by_cases heq : key = field
    · subst heq
      rw [if_pos rfl, Dict.get?_eq_none_of_not_mem hkey]
      cases value with
      | null => rfl
      | bool | num | str | arr | obj => simp [Json.present, Json.isNull, Dict.get?_insert]
    · rw [if_neg heq]
      split
      · rfl
      · rw [Dict.get?_insert, if_neg heq]

theorem get?_overrides (raw : RawSchema) (field : String) :
    (overrides raw).get? field =
      if field ≠ "type" ∧ field ≠ "$ref" then raw.get? field else none := by
  have hfilter := Dict.get?_filter raw (fun key => key ≠ "type" && key ≠ "$ref") field
  simpa [overrides] using hfilter

/-- A field of a merged raw schema is that of the child or that of the parent. -/
theorem get?_inherit_or {child : RawSchema} (hnodup : (Dict.keys child).Nodup)
    (parent : RawSchema) (field : String) :
    (inherit parent child).get? field = child.get? field ∨
      (inherit parent child).get? field = parent.get? field := by
  rw [get?_inherit hnodup]
  cases hpresent : Json.present (child.get? field) with
  | none => exact .inr rfl
  | some value => exact .inl (Json.eq_some_of_present hpresent).symm

/-- What a merged raw schema has in it stands in the child or in the parent. -/
theorem partsOf_inherit {child : RawSchema} (hnodup : (Dict.keys child).Nodup)
    (parent : RawSchema) {type : String} {part : Json}
    (h : part ∈ RawSchema.partsOf (inherit parent child) type) :
    part ∈ child.partsOf type ∨ part ∈ parent.partsOf type := by
  have hfield := get?_inherit_or hnodup parent
  have hsingle : ∀ field, part ∈ RawSchema.single (inherit parent child) field →
      part ∈ child.single field ∨ part ∈ parent.single field := by
    intro field hpart
    rcases hfield field with heq | heq <;> simp [RawSchema.single, heq] at hpart ⊢ <;> simp [hpart]
  have hnamed : ∀ field, part ∈ RawSchema.named (inherit parent child) field →
      part ∈ child.named field ∨ part ∈ parent.named field := by
    intro field hpart
    rcases hfield field with heq | heq <;> simp only [RawSchema.named, heq] at hpart ⊢ <;>
      simp [hpart]
  have hgrouped : ∀ field, part ∈ RawSchema.grouped (inherit parent child) field →
      part ∈ child.grouped field ∨ part ∈ parent.grouped field := by
    intro field hpart
    rcases hfield field with heq | heq <;> simp only [RawSchema.grouped, heq] at hpart ⊢ <;>
      simp [hpart]
  unfold RawSchema.partsOf at h ⊢
  split at h
  · exact hsingle _ h
  · simp only [List.mem_append] at h ⊢
    rcases h with h | h
    · exact (hnamed _ h).imp .inl .inl
    · exact (hsingle _ h).imp .inr .inr
  · simp only [List.mem_append] at h ⊢
    rcases h with (h | h) | h
    · exact (hgrouped _ h).imp (.inl ∘ .inl) (.inl ∘ .inl)
    · exact (hgrouped _ h).imp (.inl ∘ .inr) (.inl ∘ .inr)
    · exact (hgrouped _ h).imp .inr .inr
  · cases h

/-! ## Sorted keys -/

/-- Every object in a raw schema lists its fields by key. -/
def Sorted (raw : RawSchema) : Prop := (Json.obj raw).SortedKeys

theorem Sorted.of_get? (h : Sorted raw) {field : String} (hj : raw.get? field = some j) :
    j.SortedKeys := by
  cases h with
  | obj _ hfields => exact hfields _ (Dict.mem_of_get? hj)

theorem Sorted.normalize (hj : j.SortedKeys) (hf : normalize j = .ok f) : Sorted f := by
  cases j with
  | str type =>
    obtain rfl := Except.ok.inj hf
    refine .obj (List.pairwise_singleton _ _) fun e he => ?_
    obtain rfl := List.mem_singleton.1 he
    exact .str type
  | obj fields =>
    obtain rfl := Except.ok.inj hf
    exact hj
  | null | bool | num | arr => cases hf

theorem Sorted.inherit {parent child : RawSchema} (h : Sorted parent)
    (hchild : ∀ e ∈ child, e.2.SortedKeys) : Sorted (inherit parent child) := by
  induction child generalizing parent with
  | nil => exact h
  | cons e rest ih =>
    show Sorted (DataSchema.inherit (if e.2.isNull then parent else parent.insert e.1 e.2) rest)
    refine ih ?_ fun e he => hchild e (List.mem_cons_of_mem _ he)
    split
    · exact h
    · exact h.insert _ (hchild e List.mem_cons_self)

theorem Sorted.asProperty (h : Sorted f) (required : Bool) : Sorted (asProperty required f) := by
  cases required with
  | false => exact h
  | true =>
    have hflag : Sorted [("required", .bool true)] := by
      refine .obj (List.pairwise_singleton _ _) fun e he => ?_
      obtain rfl := List.mem_singleton.1 he
      exact .bool true
    refine hflag.inherit ?_
    cases h with
    | obj _ hfields => exact hfields

theorem Sorted.nodup_properties (h : Sorted raw) {fields : List (String × Json)}
    (hget : raw.get? "properties" = some (.obj fields)) : (Dict.keys fields).Nodup := by
  cases h.of_get? hget with
  | obj hsorted _ => exact Dict.Sorted.nodup hsorted

theorem Sorted.values (h : Sorted raw) : ∀ e ∈ raw, e.2.SortedKeys := by
  cases h with
  | obj _ hfields => exact hfields

theorem Sorted.child (h : Sorted raw) {c : RawSchema} (hc : c ∈ raw.children) : Sorted c := by
  obtain ⟨part, hpart, hnormal⟩ := RawSchema.mem_children.1 hc
  obtain ⟨e, he, -, hholds⟩ := RawSchema.holds_of_mem_parts hpart
  exact .normalize (hholds.sortedKeys (h.values e he)) hnormal

/-- The raw schemas that a field names are sorted if the whole is. -/
theorem sorted_of_mem_named (h : Sorted raw) {field : String} {part : Json}
    (hpart : part ∈ raw.named field) {f : RawSchema} (hf : normalize part = .ok f) : Sorted f := by
  obtain ⟨e, he, -, hholds⟩ := RawSchema.holds_of_mem_named hpart
  exact .normalize (hholds.sortedKeys (h.values e he)) hf

theorem Sorted.nodup (h : Sorted raw) : (Dict.keys raw).Nodup := by
  cases h with
  | obj hsorted _ => exact Dict.Sorted.nodup hsorted

theorem Sorted.filter (h : Sorted raw) (p : String × Json → Bool) :
    Sorted (raw.filter p) := by
  cases h with
  | obj hsorted hfields =>
    refine .obj ?_ fun e he => hfields e (List.mem_of_mem_filter he)
    exact List.Pairwise.sublist (List.filter_sublist.map _) hsorted

theorem Sorted.overrides (h : Sorted raw) : Sorted (overrides raw) := h.filter _

/-! ## References and properties -/

theorem typeName?_congr {raw' : RawSchema}
    (h : Json.present (raw.get? "type") = Json.present (raw'.get? "type")) :
    Compiler.typeName? raw = Compiler.typeName? raw' := by
  unfold Compiler.typeName?
  rcases Json.eq_or_unset_of_present h with heq | ⟨hraw | hraw, hraw' | hraw'⟩
  · rw [heq]
  all_goals rw [hraw, hraw']

/-- A merged definition has the type of the definition. -/
theorem typeName?_merged (h : Sorted raw) (target : RawSchema) :
    Compiler.typeName? (inherit target (overrides raw)) = Compiler.typeName? target := by
  refine typeName?_congr ?_
  rw [get?_inherit h.overrides.nodup, get?_overrides]
  rfl

theorem get?_asProperty (h : (Dict.keys f).Nodup) {field : String} (hfield : field ≠ "required") :
    Json.present ((asProperty true f).get? field) = Json.present (f.get? field) := by
  have hnone : Dict.get? [("required", Json.bool true)] field = none := by
    rw [Dict.get?_cons, if_neg (Ne.symm hfield), Dict.get?_nil]
  show Json.present ((inherit [("required", .bool true)] f).get? field) = _
  rw [get?_inherit h, hnone, Option.or_none]
  exact Json.present_of_ne_null Json.present_ne_null

theorem typeName?_asProperty (h : Sorted f) :
    Compiler.typeName? (asProperty true f) = Compiler.typeName? f :=
  typeName?_congr (get?_asProperty h.nodup (by decide))

theorem named_congr {raw' : RawSchema} {field : String}
    (h : Json.present (raw.get? field) = Json.present (raw'.get? field)) :
    raw.named field = raw'.named field := by
  unfold RawSchema.named
  rcases Json.eq_or_unset_of_present h with heq | ⟨hraw | hraw, hraw' | hraw'⟩
  · rw [heq]
  all_goals rw [hraw, hraw']

theorem grouped_congr {raw' : RawSchema} {field : String}
    (h : Json.present (raw.get? field) = Json.present (raw'.get? field)) :
    raw.grouped field = raw'.grouped field := by
  unfold RawSchema.grouped
  rcases Json.eq_or_unset_of_present h with heq | ⟨hraw | hraw, hraw' | hraw'⟩
  · rw [heq]
  all_goals rw [hraw, hraw']

/-- The value `null` is no schema. -/
theorem single_congr {raw' : RawSchema} {field : String}
    (h : Json.present (raw.get? field) = Json.present (raw'.get? field)) :
    (raw.single field).filterMap (fun part => (normalize part).toOption) =
      (raw'.single field).filterMap fun part => (normalize part).toOption := by
  unfold RawSchema.single
  rcases Json.eq_or_unset_of_present h with heq | ⟨hraw | hraw, hraw' | hraw'⟩
  · rw [heq]
  all_goals simp [hraw, hraw', normalize, Except.toOption]

/-- Which schemas stand in a raw schema does not depend on fields that are `null`. -/
theorem children_congr {raw' : RawSchema}
    (htype : Json.present (raw.get? "type") = Json.present (raw'.get? "type"))
    (h : ∀ field ∈ RawSchema.holders,
      Json.present (raw.get? field) = Json.present (raw'.get? field)) :
    raw.children = raw'.children := by
  unfold RawSchema.children RawSchema.parts
  rw [typeName?_congr htype]
  split
  · unfold RawSchema.partsOf
    split
    · exact single_congr (h _ (by decide))
    · rw [List.filterMap_append, List.filterMap_append, named_congr (h _ (by decide)),
        single_congr (h _ (by decide))]
    · rw [grouped_congr (h "allOf" (by decide)), grouped_congr (h "anyOf" (by decide)),
        grouped_congr (h "oneOf" (by decide))]
    · rfl
  · rfl

/-- Requiring a property does not change the schemas in it. -/
theorem children_asProperty (h : Sorted f) (required : Bool) :
    (asProperty required f).children = f.children := by
  cases required with
  | false => rfl
  | true =>
    refine children_congr (get?_asProperty h.nodup (by decide)) fun field hfield =>
      get?_asProperty h.nodup ?_
    rintro rfl
    exact absurd hfield (by decide)

end DataSchema.Compile
