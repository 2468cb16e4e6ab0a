import DataSchema.Proofs.Traverse
import DataSchema.Proofs.Validate.Presence
import DataSchema.Proofs.Within

/-!
# Validated data conforms

**Theorem (`conforms_of_validate`).** If validating data against a whole schema gives a value, then
the value conforms to it. Combinations and kinds that are not built in are left out.

The proof is an induction on the bound on the depth, over the list of `Accepted`:

* *values* of declared properties, of matched ones and of elements come from nested validations;
* *nothing* comes from a nested validation only if its schema is `Missing`, which makes `null` an
  element, and which a required property rules out;
* *references* lead to a schema of the whole schema, on which the hypothesis holds again.

Names of additional properties take an induction of their own (`acceptsName_of_ends`), since they
are judged by what can be read from them and not by what they become.
-/

namespace DataSchema

/-! ## Schemas that are covered -/

namespace Schema

/-- The schema is no combination, and its kind is built in. -/
structure Plain (s : Schema) : Prop where
  ne_combine : ∀ c, s.kind ≠ .combine c
  ne_custom : ∀ name properties, s.kind ≠ .custom name properties

/-- The name of a built-in kind without constraints says what the kind is. -/
theorem Plain.kind_eq {s : Schema} {kind : SchemaKind} (h : s.Plain)
    (hkind : kind = .boolean ∨ kind = .null) (ht : s.typeName = kind.typeName) : s.kind = kind := by
  unfold typeName at ht
  cases hs : s.kind with
  | custom name properties => exact absurd hs (h.ne_custom name properties)
  | _ => rcases hkind with rfl | rfl <;> simp_all [SchemaKind.typeName]

theorem mem_children_of_property {s schema : Schema} {o : ObjectSchema} {name : String}
    (hk : s.kind = .object o) (h : (name, schema) ∈ o.properties.getD []) :
    schema ∈ s.children := by
  have hmem : schema ∈ (o.properties.getD []).map (·.2) := List.mem_map.2 ⟨_, h, rfl⟩
  simp only [children, hk, List.mem_append]
  exact .inl (.inl hmem)

theorem mem_children_of_firstMatch {s schema : Schema} {o : ObjectSchema} {name : String}
    (hk : s.kind = .object o) (h : o.FirstMatch name schema) : schema ∈ s.children := by
  obtain ⟨before, p, after, heq, -⟩ := h
  have hmem : schema ∈ (o.regexNameProperties.getD []).map (·.2) := by simp [heq]
  simp only [children, hk, List.mem_append]
  exact .inl (.inr hmem)

theorem mem_children_of_propertyNames {s names : Schema} {o : ObjectSchema}
    (hk : s.kind = .object o) (h : names ∈ o.propertyNames) : names ∈ s.children := by
  simp only [children, hk, List.mem_append]
  exact .inr (Option.mem_toList.2 h)

end Schema

namespace Validator

open Validate

variable {options : ValidatorOptions} {top : TopSchema} {n depth t : Nat} {s : Schema}

/-! ## Names -/

/-- A name without errors is accepted. -/
theorem acceptsName_of_ends (htop : top.Everywhere Schema.Plain) (hs : s.Plain) {name : String}
    {o : Option Json}
    (h : ((builtin options).validateWithin (some top) n s (some (.str name))).Ends depth o t) :
    AcceptsName top options.definitionPathPrefix s name := by
  -- A name is a text that is there, so it is what is given, and no default is.
  have hname : Json.str name ≠ .null := by simp
  induction n generalizing s depth t o with
  | zero => exact absurd h Run.not_ends_failed
  | succ n ih =>
    cases accepted_of_ends h with
    | missing missing => exact absurd missing (not_missing_of_ne_null hname)
    | boolean type given read =>
      obtain rfl := given.eq_of_ne_null hname
      exact .boolean (hs.kind_eq (.inl rfl) type) read
    | null type given => cases given
    | number kind given read holds =>
      obtain rfl := given.eq_of_ne_null hname
      exact .number kind read holds
    | integer kind given read holds =>
      obtain rfl := given.eq_of_ne_null hname
      exact .integer kind read holds
    | string kind given holds =>
      obtain rfl := Json.str.inj (given.eq_of_ne_null hname)
      exact .string kind holds
    | array kind given => cases given.eq_of_ne_null hname
    | object kind given => cases given.eq_of_ne_null hname
    | combine kind => exact absurd kind (hs.ne_combine _)
    | ref kind given limit found run =>
      obtain rfl := given.eq_of_ne_null hname
      have hroot := TopSchema.mem_roots_of_definition? found
      exact .ref kind found (ih (htop _ hroot).root run)

/-! ## Values -/

/-- With this bound on the depth, what a validation gives conforms. -/
def ConformsWithin (options : ValidatorOptions) (top : TopSchema) (n : Nat) : Prop :=
  ∀ {s : Schema} {data : Option Json} {value : Json} {depth t : Nat}, s.Everywhere Schema.Plain →
    ((builtin options).validateWithin (some top) n s data).Ends depth (some value) t →
    Conforms top options.definitionPathPrefix s value

/-- An element without a value is `null`, which its schema then allows. -/
theorem elementConforms (ih : ConformsWithin options top n) {items : Schema}
    (hitems : items.Everywhere Schema.Plain) {data o : Option Json}
    (h : ((builtin options).validateWithin (some top) n items data).Ends depth o t) :
    ElementConforms top options.definitionPathPrefix items (o.getD .null) := by
  cases o with
  | none =>
    have hmissing := missing_of_ends_none h
    exact .null hmissing.required hmissing.default
  | some value =>
    have hvalue := ih hitems h
    exact .value hvalue

theorem entryConforms (htop : top.Everywhere Schema.Plain) (ih : ConformsWithin options top n)
    (hs : s.Everywhere Schema.Plain) {o : ObjectSchema} (hk : s.kind = .object o) {input : Dict Json}
    {name : String} {value : Json}
    (h : Declared ((builtin options).context (some top) n) depth input (o.properties.getD []) name
        value ∨ Other ((builtin options).context (some top) n) depth o input name value) :
    EntryConforms top options.definitionPathPrefix o name value := by
  rcases h with ⟨schema, hmem, hrun⟩ | ⟨hfree, given, -, hvalue⟩
  · have hchild := Schema.mem_children_of_property hk hmem
    exact .declared hmem (ih (hs.child hchild) hrun)
  · have hundeclared := isDeclared_eq_false.1 hfree
    cases hvalue with
    | matched found run =>
      have hfirst := patternProperty?_eq_some.1 found
      have hchild := Schema.mem_children_of_firstMatch hk hfirst
      exact .matched hundeclared hfirst (ih (hs.child hchild) run)
    | additional unmatched keeps =>
      obtain ⟨hallowed, hnames⟩ := keeps
      refine .additional hundeclared (patternProperty?_eq_none.1 unmatched) hallowed ?_
      intro names hmem
      have hchild := Schema.mem_children_of_propertyNames hk hmem
      exact acceptsName_of_ends htop (hs.child hchild).root ⟨hnames names hmem, rfl, rfl⟩

/-- One level of the induction: each kind conforms if the schemas in it do. -/
theorem conforms_of_accepted (htop : top.Everywhere Schema.Plain)
    (ih : ConformsWithin options top n) (hs : s.Everywhere Schema.Plain) {data : Option Json}
    {value : Json} (h : Accepted ((builtin options).context (some top) n) depth s data (some value)) :
    Conforms top options.definitionPathPrefix s value := by
  cases h with
  | boolean type => exact .boolean (hs.root.kind_eq (.inl rfl) type) _
  | null type => exact .null (hs.root.kind_eq (.inr rfl) type)
  | number kind _ _ holds => exact .number kind holds
  | integer kind _ _ holds => exact .integer kind holds
  | string kind _ holds => exact .string kind holds
  | array kind _ _ elements =>
    refine .array kind fun y hy => ?_
    obtain ⟨x, -, o, hrun, rfl⟩ := exists_mem_of_forall₂ elements.flip hy
    exact elementConforms ih (hs.child (by simp [Schema.children, kind])) hrun
  | @object o input output kind _ entries declared _ dependencies =>
    refine .object kind (fun e he => ?_) (fun p hp hrequired => ?_) dependencies
    · rcases entries.mem e he with hnil | hentry
      · cases hnil
      · exact entryConforms htop ih hs kind hentry
    · -- Without errors the nested validation of a required property gave an entry.
      obtain ⟨o', hrun⟩ := declared p hp
      obtain ⟨given, rfl⟩ := exists_of_required hrequired hrun
      exact (entries.contains p.1).2 (.inr ⟨given, .inl ⟨p.2, hp, hrun⟩⟩)
  | combine kind => exact absurd kind (hs.root.ne_combine _)
  | ref kind _ _ found run =>
    have hroot := TopSchema.mem_roots_of_definition? found
    exact .ref kind found (ih (htop _ hroot) run)

theorem conformsWithin (htop : top.Everywhere Schema.Plain) (n : Nat) :
    ConformsWithin options top n := by
  induction n with
  | zero => exact fun _ h => absurd h Run.not_ends_failed
  | succ n ih =>
    intro s data value depth t hs h
    exact conforms_of_accepted htop ih hs (accepted_of_ends h)

/-- **What validating data gives conforms to the schema.** -/
theorem conforms_of_validate (htop : top.Everywhere Schema.Plain) {data : Option Json} {value : Json}
    (h : ((builtin options).validate top data).value? = some value) :
    Conforms top options.definitionPathPrefix top.schema value := by
  have hends := Run.ends_of_value? h
  exact conformsWithin htop _ (htop top.schema List.mem_cons_self) hends

/-- A schema of links: each has a positive size, and may have a next link. -/
def links : TopSchema :=
  { id := some "link"
    definitions := []
    schema := .ofKind (.object
      { properties := some
          [("next", .ofKind (.ref "link")),
           ("size", ⟨true, none, .integer ⟨some 1, none, none, none, none⟩⟩)]
        regexNameProperties := none
        propertyNames := none
        dependencies := none
        requiredProperties := ["size"]
        allowAdditionalProperties := false
        silentIgnore := true }) }

theorem everywhere_plain_links : links.Everywhere Schema.Plain := by
  intro root hroot
  obtain rfl := List.mem_singleton.1 hroot
  refine Schema.everywhere_iff.2 ⟨⟨nofun, nofun⟩, fun c hc => ?_⟩
  rcases List.mem_pair.1 hc with rfl | rfl
  · exact Schema.everywhere_iff.2 ⟨⟨nofun, nofun⟩, nofun⟩
  · exact Schema.everywhere_iff.2 ⟨⟨nofun, nofun⟩, nofun⟩

/-- A link of size one, and a next one. -/
def twoLinks (nextSize : Json) : Json :=
  .obj [("next", .obj [("size", nextSize)]), ("size", .ofInt64 1)]

set_option maxRecDepth 10000 in
/-- The size of the next link is read from a text. -/
theorem conforms_of_validate_links :
    ((builtin {}).validate links (some (twoLinks (.str "2")))).value? =
        some (twoLinks (.ofInt64 2)) ∧
      Conforms links defaultDefinitionPrefix links.schema (twoLinks (.ofInt64 2)) := by
  have hvalue : ((builtin {}).validate links (some (twoLinks (.str "2")))).value? =
      some (twoLinks (.ofInt64 2)) := rfl
  exact ⟨hvalue, conforms_of_validate everywhere_plain_links hvalue⟩

end Validator

end DataSchema
