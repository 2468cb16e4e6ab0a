import DataSchema.Proofs.Compile.Expand

/-!
# Expanded raw schemas

What a raw schema looks like after expansion. A raw schema that is no reference keeps its fields,
and the raw schemas in it are expanded (`get?_mapChildren`). A reference becomes what its
definition becomes, merged with what it overrides; fields that hold no schemas stay what they are
where they are set (`present_expandWithin`).

Expansion keeps the fields of a raw schema and changes the schemas in it, so whether it is compiled
to the same comes down to the schemas in it (`similar_expanded`).
-/

namespace DataSchema

namespace Compile

variable {r : Registry} {raw raw' f target : RawSchema} {path : String} {own : Option String}
  {g : RawSchema → RawSchema} {n : Nat} {field : String}

/-! ## Look-ups after expansion -/

theorem expandWithin_refers (h : Refers r raw path target) (n : Nat) :
    expandWithin r (n + 1) raw = expandWithin r n (inherit target.withoutId (overrides raw)) := by
  rw [expandWithin, if_pos h.1, h.2]

theorem expandWithin_of_ne (r : Registry) (h : Compiler.typeName? raw ≠ some "ref") (n : Nat) :
    expandWithin r (n + 1) raw = raw.mapChildren (expandWithin r n) := by
  rw [expandWithin, if_neg h]

/-- A reference that refers to nothing stays. -/
theorem expandWithin_of_none (h : Compiler.typeName? raw = some "ref")
    (href : referent? r raw = none) (n : Nat) : expandWithin r n raw = raw := by
  cases n with
  | zero => rfl
  | succ n => rw [expandWithin, if_pos h, href]

theorem get?_withoutId (raw : RawSchema) (hfield : field ≠ "$id") :
    raw.withoutId.get? field = raw.get? field := by
  have hfilter := Dict.get?_filter raw (fun key => key ≠ "$id") field
  simpa [RawSchema.withoutId, hfield] using hfilter

theorem resemble_withoutId (raw : RawSchema) : Resemble raw.withoutId raw :=
  fun _ hid _ => get?_withoutId raw hid

theorem resemble_inherit {parent parent' child child' : RawSchema}
    (hparent : Resemble parent parent') (hchild : Resemble child child')
    (hnodup : (Dict.keys child).Nodup) (hnodup' : (Dict.keys child').Nodup) :
    Resemble (inherit parent child) (inherit parent' child') := by
  intro field hid hdefs
  rw [get?_inherit hnodup, get?_inherit hnodup', hparent field hid hdefs, hchild field hid hdefs]

theorem Resemble.overrides (h : Resemble raw raw') :
    Resemble (overrides raw) (overrides raw') := by
  intro field hid hdefs
  rw [get?_overrides, get?_overrides, h field hid hdefs]

theorem Resemble.referent? (h : Resemble raw raw') :
    referent? r raw = referent? r raw' := by
  simp only [Compile.referent?, h "$ref" (by decide) (by decide)]

/-- Keys are sorted in a definition that is merged with what a reference overrides. -/
theorem Library.sorted_merged (hr : Library r own) (hraw : Sorted raw)
    (hrefers : Refers r raw path target) : Sorted (inherit target.withoutId (overrides raw)) := by
  obtain ⟨_, -, -, -, hfound⟩ := hrefers.resolved
  have htarget : Sorted target.withoutId := (hr.sorted path target hfound).filter _
  exact htarget.inherit hraw.overrides.values

/-- What is expanded does not depend on what is read for whole schemas only. -/
theorem resemble_expandWithin (hr : Library r own) (h : Resemble raw raw')
    (hraw : Sorted raw) (hraw' : Sorted raw') :
    Resemble (expandWithin r n raw) (expandWithin r n raw') := by
  induction n generalizing raw raw' with
  | zero => exact h
  | succ n ih =>
    by_cases htype : Compiler.typeName? raw = some "ref"
    · have htype' : Compiler.typeName? raw' = some "ref" := h.typeName? ▸ htype
      cases href : referent? r raw with
      | none =>
        rw [expandWithin_of_none htype href, expandWithin_of_none htype' (h.referent? ▸ href)]
        exact h
      | some found =>
        obtain ⟨path, target⟩ := found
        have hrefers : Refers r raw path target := ⟨htype, href⟩
        have hrefers' : Refers r raw' path target := ⟨htype', h.referent? ▸ href⟩
        rw [expandWithin_refers hrefers, expandWithin_refers hrefers']
        exact ih (resemble_inherit (.refl _) h.overrides hraw.overrides.nodup hraw'.overrides.nodup)
          (hr.sorted_merged hraw hrefers) (hr.sorted_merged hraw' hrefers')
    · rw [expandWithin_of_ne r htype, expandWithin_of_ne r (h.typeName? ▸ htype)]
      intro field hid hdefs
      rw [get?_mapChildren, get?_mapChildren, h.typeName?, h field hid hdefs]

/-- A reference expands to what its definition expands to, merged with what it overrides. -/
theorem resemble_merged (hr : Library r own) (hraw : Sorted raw)
    (hrefers : Refers r raw path target) (n : Nat) :
    Resemble (expandWithin r (n + 1) raw) (expandWithin r n (inherit target (overrides raw))) := by
  obtain ⟨_, -, -, -, hfound⟩ := hrefers.resolved
  have hmerged : Resemble (inherit target.withoutId (overrides raw))
      (inherit target (overrides raw)) :=
    resemble_inherit (resemble_withoutId target) (.refl _) hraw.overrides.nodup hraw.overrides.nodup
  rw [expandWithin_refers hrefers]
  exact resemble_expandWithin hr hmerged (hr.sorted_merged hraw hrefers)
    ((hr.sorted path target hfound).inherit hraw.overrides.values)

/-- A merged definition refers to what the definition refers to. -/
theorem Refers.of_withoutId {path' : String} {target' : RawSchema} (hraw : Sorted raw)
    (h : Refers r (inherit target.withoutId (overrides raw)) path' target') :
    Refers r target path' target' := by
  have htype : Compiler.typeName? target.withoutId = Compiler.typeName? target :=
    typeName?_congr (congrArg _ (get?_withoutId target (by decide)))
  have href : (inherit target.withoutId (overrides raw)).get? "$ref" = target.get? "$ref" := by
    rw [get?_inherit hraw.overrides.nodup, get?_overrides, ← get?_withoutId target (by decide)]
    rfl
  have hmerged := h.1
  rw [typeName?_merged hraw, htype] at hmerged
  exact h.congr hmerged href.symm

/-- A field that holds no schemas is what it was, if it is set, or if no definition has it that
comes up. -/
theorem present_expandWithin (hr : Library r own) (hraw : Sorted raw) {P : String → Prop}
    (hP : ∀ path target, Refers r raw path target → P path)
    (hleads : ∀ path target, r.raw? path = some target → ∀ path' target',
      Refers r target path' target' → P path')
    (hfield : field ∉ "type" :: "$ref" :: RawSchema.holders)
    (h : Json.present (raw.get? field) ≠ none ∨ ∀ path (target : RawSchema),
      r.raw? path = some target → P path → target.withoutId.get? field = none) :
    Json.present ((expandWithin r n raw).get? field) = Json.present (raw.get? field) := by
  obtain ⟨htypeField, hrefField, hholder⟩ :
      field ≠ "type" ∧ field ≠ "$ref" ∧ field ∉ RawSchema.holders := by
    simpa using hfield
  induction n generalizing raw with
  | zero => rfl
  | succ n ih =>
    by_cases htype : Compiler.typeName? raw = some "ref"
    · cases href : referent? r raw with
      | none => rw [expandWithin_of_none htype href]
      | some found =>
        obtain ⟨path, target⟩ := found
        have hrefers : Refers r raw path target := ⟨htype, href⟩
        obtain ⟨_, -, -, -, hfound⟩ := hrefers.resolved
        have hget : (inherit target.withoutId (overrides raw)).get? field =
            (Json.present (raw.get? field)).or (target.withoutId.get? field) := by
          rw [get?_inherit hraw.overrides.nodup, get?_overrides, if_pos ⟨htypeField, hrefField⟩]
        have hpresent : Json.present ((inherit target.withoutId (overrides raw)).get? field) =
            Json.present (raw.get? field) := by
          rw [hget]
          rcases h with h | h
          · obtain ⟨value, hvalue⟩ := Option.ne_none_iff_exists'.1 h
            rw [hvalue, Option.some_or, ← hvalue]
            exact Json.present_of_ne_null Json.present_ne_null
          · rw [h path target hfound (hP path target hrefers), Option.or_none]
            exact Json.present_of_ne_null Json.present_ne_null
        rw [expandWithin_refers hrefers, ← hpresent]
        refine ih (hr.sorted_merged hraw hrefers) (fun path' target' hrefers' => ?_) (hpresent ▸ h)
        exact hleads path target hfound path' target' (hrefers'.of_withoutId hraw)
    · rw [expandWithin_of_ne r htype, get?_mapChildren_of_not_mem _ _ hholder]

/-- An id is never taken from a definition. -/
theorem present_id_expandWithin (hr : Library r own) (hraw : Sorted raw) :
    Json.present ((expandWithin r n raw).get? "$id") = Json.present (raw.get? "$id") := by
  refine present_expandWithin hr hraw (P := fun _ => True) (fun _ _ _ => trivial)
    (fun _ _ _ _ _ _ => trivial) (by decide) (.inr fun path target _ _ => ?_)
  exact Dict.get?_filter target (fun key => key ≠ "$id") "$id"

/-- How its name is meant is a matter of the property alone. -/
theorem present_nameType_expandWithin (hr : Library r own) (hraw : Sorted raw)
    (hown : ∀ path target, Refers r raw path target → own ≠ some path) :
    Json.present ((expandWithin r n raw).get? "nameType") = Json.present (raw.get? "nameType") := by
  refine present_expandWithin hr hraw (P := fun path => own ≠ some path) hown
    (fun path target hfound path' target' => hr.ne_own hfound) (by decide)
    (.inr fun path target hfound hpath => ?_)
  rw [get?_withoutId target (by decide)]
  exact hr.nameType path target hfound hpath

/-- A type name alone has nothing to expand. -/
theorem expandWithin_short (r : Registry) (n : Nat) (type : String) :
    expandWithin r n [("type", .str type)] = [("type", .str type)] := by
  cases n with
  | zero => rfl
  | succ n =>
    by_cases htype : Compiler.typeName? [("type", .str type)] = some "ref"
    · exact expandWithin_of_none htype rfl _
    · rw [expandWithin_of_ne r htype, RawSchema.mapChildren]
      split
      · rw [List.map_singleton, mapField_of_not_mem _ _ (show "type" ∉ RawSchema.holders by decide),
          id_eq]
      · rfl

/-- Expansion keeps the keys of a raw schema distinct. -/
theorem nodup_expandWithin (hr : Library r own) (hraw : Sorted raw) :
    (Dict.keys (expandWithin r n raw)).Nodup := by
  induction n generalizing raw with
  | zero => exact hraw.nodup
  | succ n ih =>
    by_cases htype : Compiler.typeName? raw = some "ref"
    · cases href : referent? r raw with
      | none =>
        rw [expandWithin_of_none htype href]
        exact hraw.nodup
      | some found =>
        obtain ⟨path, target⟩ := found
        have hrefers : Refers r raw path target := ⟨htype, href⟩
        rw [expandWithin_refers hrefers]
        exact ih (hr.sorted_merged hraw hrefers)
    · rw [expandWithin_of_ne r htype, keys_mapChildren]
      exact hraw.nodup

/-- Requiring a property that is not a reference commutes with expanding it. -/
theorem resemble_asProperty (hf : Sorted f) (htype : Compiler.typeName? f ≠ some "ref")
    {f' : RawSchema} (hnodup : (Dict.keys f').Nodup) (h : Resemble f' (expandWithin r n f)) :
    Resemble (asProperty true f') (expandWithin r n (asProperty true f)) := by
  intro field hid hdefs
  have hleft : (asProperty true f').get? field = (Json.present (f'.get? field)).or
      (Dict.get? [("required", .bool true)] field) := get?_inherit hnodup _ field
  have hright : (asProperty true f).get? field = (Json.present (f.get? field)).or
      (Dict.get? [("required", .bool true)] field) := get?_inherit hf.nodup _ field
  rw [hleft, h field hid hdefs]
  cases n with
  | zero => exact hright.symm
  | succ n =>
    rw [expandWithin_of_ne r htype, expandWithin_of_ne r (typeName?_asProperty hf ▸ htype),
      get?_mapChildren, get?_mapChildren, typeName?_asProperty hf, hright]
    split
    · next type _ =>
      rw [present_map (mapField_eq_null _ type field)]
      cases Json.present (f.get? field) with
      | some value => rfl
      | none =>
        by_cases hrequired : field = "required"
        · subst hrequired
          rw [mapField_of_not_mem _ _ (by decide), Option.map_id, id_eq]
          rfl
        · rw [Dict.get?_cons, if_neg (Ne.symm hrequired)]
          rfl
    · rfl

/-! ## Schemas in an expanded raw schema -/

theorem keepsShort_expandWithin (r : Registry) (n : Nat) : KeepsShort (expandWithin r n) :=
  expandWithin_short r n

theorem Resemble.refFree (h : Resemble raw raw') (hraw' : RefFree raw') : RefFree raw := by
  have hget : ∀ field, field ≠ "$id" → field ≠ "definitions" →
      Json.present (raw.get? field) = Json.present (raw'.get? field) :=
    fun field hid hdefinitions => congrArg Json.present (h field hid hdefinitions)
  have hchildren : raw.children = raw'.children := by
    refine children_congr (hget "type" (by decide) (by decide)) fun field hfield => hget field ?_ ?_
    · rintro rfl
      exact absurd hfield (by decide)
    · rintro rfl
      exact absurd hfield (by decide)
  intro node hnode
  cases hnode with
  | self =>
    rw [h.typeName?]
    exact hraw' raw' (.self raw')
  | child hc hnode => exact hraw' node (.child (hchildren ▸ hc) hnode)

/-- **A raw schema is similar to its expansion** if the schemas in it correspond to theirs. As
properties that are listed as required they have to correspond too, unless they are references. -/
theorem similar_expanded {A : RawSchema → RawSchema → Prop} (hg : KeepsShort g) (hraw : Sorted raw)
    (hunlisted : Unlisted raw) (h : Resemble raw' (raw.mapChildren g))
    (hA : ∀ f ∈ raw.children, ∀ required,
      (required = true → Compiler.typeName? f ≠ some "ref") →
        A (asProperty required f) (asProperty required (g f)))
    (hnodup : ∀ f ∈ raw.children, (Dict.keys (g f)).Nodup)
    (hnameType : ∀ f ∈ raw.children,
      Json.present ((g f).get? "nameType") = Json.present (f.get? "nameType")) :
    Similar A raw raw' := by
  refine similar_mapped hg h (fun f hf => hA f hf false (by simp)) ?_
  intro htype fields hget e he f hmem hf required hrequired
  refine ⟨hA f hmem required fun htrue href => ?_, ?_⟩
  · -- No reference is listed, and what counts is the list at first.
    have hlisted : e.1 ∈ listedNames raw := by
      rw [← List.contains_iff_mem, ← hrequired (hraw.nodup_properties hget), htrue]
    exact hunlisted htype e.1 (mem_refProperties hget he hf href) hlisted
  · cases required with
    | false => exact (hnameType f hmem).symm
    | true =>
      have hf : (Dict.keys f).Nodup := (hraw.child hmem).nodup
      rw [get?_asProperty hf (by decide), get?_asProperty (hnodup f hmem) (by decide)]
      exact (hnameType f hmem).symm

end Compile

end DataSchema
