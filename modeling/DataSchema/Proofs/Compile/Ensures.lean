import DataSchema.Proofs.Compile.Expand
import DataSchema.Proofs.Ensures

/-!
# What compiling ensures

**Theorem (`ensures_compileWithin`).** Take a property of registries and raw schemas that holds of
what comes up while a raw schema is compiled (`Tracks`): of the schemas in it and, while its
definition is marked, of the definition merged with what a reference overrides. Then the leaves of
the errors and the types of the compiled nodes are what the property says of references to
definitions that are being compiled, and of the types of raw schemas.

Errors other than on references are on fields, so only the compiling of references needs a look: a
property of leaves that says something of `$ref` only (`OnReferences`) holds of the others. Each
kind of schema has a law under a hypothesis on the schemas in it, and `ensures_compileIn` goes
through the kinds.
-/

namespace DataSchema

/-- The types of all nodes of the schema satisfy a property. -/
def Schema.Typed (A : String → Prop) (s : Schema) : Prop := s.Everywhere fun node => A node.typeName

theorem Schema.typed_iff {A : String → Prop} {s : Schema} :
    s.Typed A ↔ A s.typeName ∧ ∀ c ∈ s.children, c.Typed A :=
  Schema.everywhere_iff

/-- The property says something of errors on references only. -/
def OnReferences (Q : String → String → Prop) : Prop :=
  ∀ constraint reason, constraint ≠ "$ref" → Q constraint reason

namespace Compile

open Step

variable {α β : Type} {Q : String → String → Prop} {R : Registry → Prop} {A : String → Prop}
  {ctx : Context} {raw f : RawSchema} {r r' : Registry}

/-! ## Fields -/

theorem ensures_coerced (hQ : OnReferences Q) {field : String} (hfield : field ≠ "$ref")
    (c : Coerced α) : (coerced field c).Ensures Q fun _ => True := by
  refine ⟨?_, trivial⟩
  unfold coerced
  dsimp only
  split
  · exact Diagnostic.leaves_of.2 (hQ _ _ hfield)
  · exact Diagnostic.leaves_nil

theorem ensures_flag (hQ : OnReferences Q) {field : String} (hfield : field ≠ "$ref")
    (default : Bool) : (flag raw field default).Ensures Q fun _ => True :=
  (ensures_coerced hQ hfield _).bind fun _ _ => Noted.ensures_pure trivial

theorem ensures_required (hQ : OnReferences Q) : (required raw).Ensures Q fun _ => True :=
  ensures_flag hQ (by decide) _

theorem ensures_error_bind (hQ : OnReferences Q) {field reason : String} {property : Option String}
    (hfield : field ≠ "$ref") {x : Noted α} {S : α → Prop} (hx : x.Ensures Q S) :
    (Noted.error ⟨field, property, reason, []⟩ >>= fun _ => x).Ensures Q S :=
  (Noted.ensures_error (hQ _ _ hfield)).bind fun _ _ => hx

theorem ensures_checkedDefault (hQ : OnReferences Q) (expected : String) (test : Json → Bool) :
    (checkedDefault raw expected test).Ensures Q fun _ => True := by
  unfold checkedDefault
  split
  · exact Noted.ensures_pure trivial
  · split
    · exact Noted.ensures_pure trivial
    · exact ensures_error_bind hQ (by decide) (Noted.ensures_pure trivial)

theorem ensures_members (hQ : OnReferences Q) (element : Coerce.Reader α) :
    (members raw element).Ensures Q fun _ => True :=
  (ensures_coerced hQ (by decide) _).bind fun _ _ => Noted.ensures_pure trivial

theorem ensures_roundedBound (hQ : OnReferences Q) {name : String} (hname : name ≠ "$ref")
    (round : Binary64 → Binary64) : (roundedBound raw name round).Ensures Q fun _ => True := by
  unfold roundedBound
  dsimp only
  split
  · exact Noted.ensures_pure trivial
  · refine (ensures_coerced hQ hname _).bind fun number _ => ?_
    split
    · exact Noted.ensures_pure trivial
    · split
      · exact ensures_error_bind hQ hname (Noted.ensures_pure trivial)
      · split
        · exact (Noted.ensures_warning _).bind fun _ _ => Noted.ensures_pure trivial
        · exact Noted.ensures_pure trivial

theorem ensures_known (field : String) (ofName? : String → Option α) (names : List String) :
    (known field ofName? names).Ensures Q fun _ => True := by
  induction names with
  | nil => exact Noted.ensures_pure trivial
  | cons name rest ih =>
    unfold known
    split
    · exact ih.bind fun _ _ => Noted.ensures_pure trivial
    · exact (Noted.ensures_warning _).bind fun _ _ => ih

theorem ensures_knownNames (hQ : OnReferences Q) {field : String} (hfield : field ≠ "$ref")
    (ofName? : String → Option α) : (knownNames raw field ofName?).Ensures Q fun _ => True := by
  have hnames : (names raw field).Ensures Q fun _ => True := by
    unfold names
    split
    · exact Noted.ensures_pure trivial
    · exact Noted.ensures_pure trivial
    · exact Noted.ensures_pure trivial
    · exact (ensures_coerced hQ hfield _).bind fun _ _ => Noted.ensures_pure trivial
    · exact ensures_error_bind hQ hfield (Noted.ensures_pure trivial)
  exact hnames.bind fun _ _ => (ensures_known field ofName? _).bind fun _ _ =>
    Noted.ensures_pure trivial

theorem ensures_minLength (hQ : OnReferences Q) : (minLength raw).Ensures Q fun _ => True := by
  refine (ensures_coerced hQ (by decide) _).bind fun given _ => ?_
  split
  · exact Noted.ensures_pure trivial
  · split
    · exact ensures_error_bind hQ (by decide) (Noted.ensures_pure trivial)
    · exact Noted.ensures_pure trivial

theorem ensures_maxLength (hQ : OnReferences Q) (least : Option UInt64) :
    (maxLength raw least).Ensures Q fun _ => True := by
  refine (ensures_coerced hQ (by decide) _).bind fun given _ => ?_
  split
  · exact Noted.ensures_pure trivial
  · split
    · exact ensures_error_bind hQ (by decide) (Noted.ensures_pure trivial)
    · split
      · exact Noted.ensures_pure trivial
      · split
        · exact ensures_error_bind hQ (by decide) (Noted.ensures_pure trivial)
        · exact Noted.ensures_pure trivial

/-! ## Scalars -/

/-- A schema without children has the types that its own type has. -/
theorem ensures_leaf {s : Schema} (hs : s.children = []) (hA : A s.typeName) :
    (pure (some s) : Noted (Option Schema)).Ensures Q fun o => ∀ s ∈ o, s.Typed A := by
  refine Noted.ensures_pure fun t ht => ?_
  obtain rfl := Option.some.inj ht
  exact Schema.typed_iff.2 ⟨hA, fun c hc => by rw [hs] at hc; cases hc⟩

theorem ensures_boolean (hQ : OnReferences Q) (hA : A "boolean") :
    (boolean raw).Ensures Q fun o => ∀ s ∈ o, s.Typed A :=
  (ensures_required hQ).bind fun _ _ => (ensures_coerced hQ (by decide) _).bind fun _ _ =>
    ensures_leaf rfl hA

theorem ensures_null (hQ : OnReferences Q) (hA : A "null") :
    (null raw).Ensures Q fun o => ∀ s ∈ o, s.Typed A :=
  (ensures_required hQ).bind fun _ _ => (ensures_coerced hQ (by decide) _).bind fun _ _ =>
    ensures_leaf rfl hA

theorem ensures_number (hQ : OnReferences Q) (hA : A "number") :
    (number raw).Ensures Q fun o => ∀ s ∈ o, s.Typed A :=
  (ensures_required hQ).bind fun _ _ => (ensures_coerced hQ (by decide) _).bind fun _ _ =>
    (ensures_coerced hQ (by decide) _).bind fun _ _ =>
    (ensures_coerced hQ (by decide) _).bind fun _ _ =>
    (ensures_coerced hQ (by decide) _).bind fun _ _ =>
    (ensures_coerced hQ (by decide) _).bind fun _ _ => (ensures_members hQ _).bind fun _ _ =>
    ensures_leaf rfl hA

theorem ensures_integer (hQ : OnReferences Q) (hA : A "integer") :
    (integer raw).Ensures Q fun o => ∀ s ∈ o, s.Typed A :=
  (ensures_required hQ).bind fun _ _ => (ensures_coerced hQ (by decide) _).bind fun _ _ =>
    (ensures_roundedBound hQ (by decide) _).bind fun _ _ =>
    (ensures_roundedBound hQ (by decide) _).bind fun _ _ =>
    (ensures_roundedBound hQ (by decide) _).bind fun _ _ =>
    (ensures_roundedBound hQ (by decide) _).bind fun _ _ => (ensures_members hQ _).bind fun _ _ =>
    ensures_leaf rfl hA

theorem ensures_string (hQ : OnReferences Q) (hA : A "string") :
    (string raw).Ensures Q fun o => ∀ s ∈ o, s.Typed A :=
  (ensures_required hQ).bind fun _ _ => (ensures_coerced hQ (by decide) _).bind fun _ _ =>
    (ensures_coerced hQ (by decide) _).bind fun _ _ => (ensures_members hQ _).bind fun _ _ =>
    (ensures_minLength hQ).bind fun _ _ => (ensures_maxLength hQ _).bind fun _ _ =>
    (ensures_knownNames hQ (by decide) _).bind fun _ _ =>
    (ensures_knownNames hQ (by decide) _).bind fun _ _ => ensures_leaf rfl hA

/-! ## Arrays and combinations -/

/-- A raw schema is compiled, as it is and as a property, with what the nested compiler ensures. -/
def NestedEnsures (Q : String → String → Prop) (R : Registry → Prop) (A : String → Prop)
    (ctx : Context) (f : RawSchema) : Prop :=
  ∀ required, Run.Ensures Q R (Schema.Typed A) (ctx.nested (asProperty required f))

theorem ensures_compile (hQ : OnReferences Q) {j : Json}
    (h : ∀ f, normalize j = .ok f → NestedEnsures Q R A ctx f) :
    Run.Ensures Q R (Schema.Typed A) (ctx.compile j) := by
  unfold Context.compile
  split
  · next f hf => exact h f hf false
  · next d hd =>
    cases j with
    | str | obj => cases hd
    | null | bool | num | arr =>
      obtain rfl := Except.error.inj hd
      exact Run.ensures_failed (hQ _ _ (by decide))

theorem ensures_noteError_bind (hQ : OnReferences Q) {field reason : String}
    {property : Option String} (hfield : field ≠ "$ref") {x : Compiling α} {S : α → Prop}
    (hx : Ensures Q R S x) : Ensures Q R S (noteError ⟨field, property, reason, []⟩ >>= fun _ => x) :=
  (ensures_noteError (hQ _ _ hfield)).bind fun _ _ => hx

theorem ensures_items (hQ : OnReferences Q)
    (h : ∀ part ∈ raw.single "items", ∀ f, normalize part = .ok f → NestedEnsures Q R A ctx f) :
    Ensures Q R (fun o => ∀ s ∈ o, s.Typed A) (items ctx raw) := by
  have hnone : Ensures Q R (fun o => ∀ s ∈ o, s.Typed A) (pure none : Compiling (Option Schema)) :=
    ensures_pure fun _ hs => nomatch hs
  unfold items
  split
  · exact ensures_noteError_bind hQ (by decide) hnone
  · exact ensures_noteError_bind hQ (by decide) hnone
  · next part _ hpart =>
    exact ensures_attach (ensures_compile hQ (h part (by simp [RawSchema.single, hpart]))) _ _

theorem ensures_array (hQ : OnReferences Q) (hA : A "array")
    (h : ∀ part ∈ raw.single "items", ∀ f, normalize part = .ok f → NestedEnsures Q R A ctx f) :
    Ensures Q R (fun o => ∀ s ∈ o, s.Typed A) (array ctx raw) := by
  refine (ensures_lift (ensures_required hQ)).bind fun _ _ =>
    (ensures_lift (ensures_flag hQ (by decide) _)).bind fun _ _ =>
    (ensures_lift (ensures_checkedDefault hQ _ _)).bind fun _ _ =>
    (ensures_items hQ h).bind fun items hitems => ?_
  split
  · exact ensures_pure fun _ hs => nomatch hs
  · next items =>
    refine ensures_pure fun s hs => ?_
    obtain rfl := Option.some.inj hs
    refine Schema.typed_iff.2 ⟨hA, fun c hc => ?_⟩
    obtain rfl : c = items := by simpa [Schema.children] using hc
    exact hitems _ rfl

theorem ensures_groupMembers (hQ : OnReferences Q) {name : String} {parts : List Json}
    (h : ∀ part ∈ parts, ∀ f, normalize part = .ok f → NestedEnsures Q R A ctx f) (i : Nat) :
    Ensures Q R (fun members => ∀ s ∈ members, s.Typed A) (groupMembers ctx name i parts) := by
  induction parts generalizing i with
  | nil => exact ensures_pure fun _ hs => nomatch hs
  | cons part rest ih =>
    obtain ⟨hpart, hrest⟩ := List.forall_mem_cons.1 h
    refine (ensures_attach (ensures_compile hQ hpart) _ _).bind fun member hmember =>
      (ih hrest (i + 1)).bind fun others hothers => ensures_pure ?_
    refine List.forall_mem_append.2 ⟨fun s hs => hmember s (Option.mem_toList.1 hs), hothers⟩

theorem ensures_group (hQ : OnReferences Q) {name : String} (hname : name ≠ "$ref")
    (h : ∀ part ∈ raw.grouped name, ∀ f, normalize part = .ok f → NestedEnsures Q R A ctx f) :
    Ensures Q R (fun g => ∀ s ∈ g.getD [], s.Typed A) (group ctx raw name) := by
  have hnone : Ensures Q R (fun g => ∀ s ∈ g.getD [], s.Typed A)
      (pure none : Compiling (Option (List Schema))) := ensures_pure fun _ hs => nomatch hs
  unfold group
  split
  · exact hnone
  · exact hnone
  · next parts hparts =>
    have hmembers : ∀ part ∈ parts, ∀ f, normalize part = .ok f → NestedEnsures Q R A ctx f :=
      fun part hpart => h part (by simpa [RawSchema.grouped, hparts] using hpart)
    exact (ensures_groupMembers hQ hmembers 0).bind fun members hall =>
      ensures_pure fun s hs => hall s (getD_nonEmpty members ▸ hs)
  · exact ensures_noteError_bind hQ hname hnone

theorem ensures_strategy (hQ : OnReferences Q) : (strategy raw).Ensures Q fun _ => True := by
  refine (ensures_coerced hQ (by decide) _).bind fun _ _ => ?_
  dsimp only
  split
  · exact Noted.ensures_pure trivial
  · exact ensures_error_bind hQ (by decide) (Noted.ensures_pure trivial)

theorem ensures_combine (hQ : OnReferences Q) (hA : A "combine")
    (h : ∀ name ∈ ["allOf", "anyOf", "oneOf"], ∀ part ∈ raw.grouped name, ∀ f,
      normalize part = .ok f → NestedEnsures Q R A ctx f) :
    Ensures Q R (fun o => ∀ s ∈ o, s.Typed A) (combine ctx raw) := by
  refine (ensures_lift (ensures_required hQ)).bind fun _ _ =>
    (ensures_lift (ensures_strategy hQ)).bind fun _ _ =>
    (ensures_group hQ (by decide) (h "allOf" (by decide))).bind fun all hall =>
    (ensures_group hQ (by decide) (h "anyOf" (by decide))).bind fun any hany =>
    (ensures_group hQ (by decide) (h "oneOf" (by decide))).bind fun one hone => ?_
  have hdone : ∀ required default strategy, Ensures Q R (fun o => ∀ s ∈ o, s.Typed A)
      (pure (some ⟨required, default, .combine ⟨strategy, all, any, one⟩⟩) :
        Compiling (Option Schema)) := by
    refine fun required default strategy => ensures_pure fun s hs => ?_
    obtain rfl := Option.some.inj hs
    refine Schema.typed_iff.2 ⟨hA, fun c hc => ?_⟩
    rcases List.mem_append.1 hc with hc | hc
    · exact (List.mem_append.1 hc).elim (hall c) (hany c)
    · exact hone c hc
  dsimp only
  split
  · exact hdone _ _ _
  · exact ensures_noteError_bind hQ (by decide) (hdone _ _ _)

/-! ## Objects -/

/-- The schemas in a table of properties. -/
def PropertyTable.schemas (table : PropertyTable) : List Schema :=
  table.named.map (·.2) ++ table.patterns.map (·.2)

/-- All schemas in a table of properties have the types. -/
def PropertyTable.Typed (A : String → Prop) (table : PropertyTable) : Prop :=
  ∀ s ∈ table.schemas, s.Typed A

theorem ensures_enter (hQ : OnReferences Q) {table : PropertyTable} (htable : table.Typed A)
    {schema : Schema} (hschema : schema.Typed A) (name : String) (nameType : Option Json) :
    Ensures Q R (PropertyTable.Typed A) (enter table name nameType schema) := by
  obtain ⟨hnamed, hpatterns⟩ := List.forall_mem_append.1 htable
  have hfield : "properties" ≠ "$ref" := by decide
  unfold enter
  dsimp only
  split
  · exact ensures_noteError_bind hQ hfield (ensures_pure htable)
  · split
    · split
      · refine ensures_pure (List.forall_mem_append.2 ⟨hnamed, fun s hs => ?_⟩)
        rw [List.map_append, List.mem_append] at hs
        rcases hs with hs | hs
        · exact hpatterns s hs
        · obtain rfl := List.mem_singleton.1 hs
          exact hschema
      · exact ensures_noteError_bind hQ hfield (ensures_pure htable)
    · refine ensures_pure (List.forall_mem_append.2 ⟨fun s hs => ?_, hpatterns⟩)
      obtain ⟨e, he, rfl⟩ := List.mem_map.1 hs
      rcases Dict.mem_insert he with rfl | he
      · exact hschema
      · exact hnamed _ (List.mem_map_of_mem he)
    · refine ensures_pure (List.forall_mem_append.2 ⟨fun s hs => ?_, hpatterns⟩)
      obtain ⟨e, he, rfl⟩ := List.mem_map.1 hs
      rcases Dict.mem_insert he with rfl | he
      · exact hschema
      · exact hnamed _ (List.mem_map_of_mem he)
    · exact ensures_noteError_bind hQ hfield (ensures_pure htable)

theorem ensures_property (hQ : OnReferences Q) {table : PropertyTable} (htable : table.Typed A)
    (name : String) {j : Json} (h : ∀ f, normalize j = .ok f → NestedEnsures Q R A ctx f) :
    Ensures Q R (PropertyTable.Typed A) (property ctx table name j) := by
  unfold property
  split
  · next d hd =>
    -- The error is on the property, and its one cause on the type of what is no schema.
    have hleaf : ∃ reason, d = .of "type" reason := by
      cases j with
      | str | obj => cases hd
      | null | bool | num | arr => exact ⟨_, (Except.error.inj hd).symm⟩
    obtain ⟨reason, rfl⟩ := hleaf
    have hnoted : Ensures Q R (fun _ => True) (noteError (((Diagnostic.of "properties" reason)
        |>.withProperty name).withTraces [.of "type" reason]) : Compiling Unit) :=
      ensures_lift ⟨Diagnostic.leaves_cons.2 (Diagnostic.leaves_of.2 (hQ _ _ (by decide))), trivial⟩
    exact hnoted.bind fun _ _ => ensures_pure htable
  · next fields hfields =>
    refine (ensures_attach (h fields hfields (table.required.contains name)) _ _).bind
      fun schema hschema => ?_
    split
    · exact ensures_pure htable
    · next schema =>
      have hreconciled : PropertyTable.Typed A
          { table with required := reconciled table.required name schema.required } := htable
      exact ensures_enter hQ hreconciled (hschema _ rfl) _ _

theorem ensures_propertyList (hQ : OnReferences Q) {table : PropertyTable} (htable : table.Typed A)
    {fields : List (String × Json)}
    (h : ∀ e ∈ fields, ∀ f, normalize e.2 = .ok f → NestedEnsures Q R A ctx f) :
    Ensures Q R (PropertyTable.Typed A) (propertyList ctx table fields) := by
  induction fields generalizing table with
  | nil => exact ensures_pure htable
  | cons e rest ih =>
    obtain ⟨he, hrest⟩ := List.forall_mem_cons.1 h
    exact (ensures_property hQ htable e.1 he).bind fun _ htable' => ih htable' hrest

theorem ensures_properties (hQ : OnReferences Q) (listed : List String)
    (h : ∀ part ∈ raw.named "properties", ∀ f, normalize part = .ok f → NestedEnsures Q R A ctx f) :
    Ensures Q R (PropertyTable.Typed A) (properties ctx raw listed) := by
  have hempty : PropertyTable.Typed A { required := listed, named := [], patterns := [] } :=
    fun _ hs => nomatch hs
  unfold properties
  dsimp only
  split
  · exact ensures_pure hempty
  · exact ensures_pure hempty
  · next fields hfields =>
    refine ensures_propertyList hQ hempty fun e he => h e.2 ?_
    simp only [RawSchema.named, hfields]
    exact List.mem_map_of_mem he
  · exact ensures_noteError_bind hQ (by decide) (ensures_pure hempty)

theorem ensures_propertyNames (hQ : OnReferences Q)
    (h : ∀ part ∈ raw.single "propertyNames", ∀ f, normalize part = .ok f →
      NestedEnsures Q R A ctx f) :
    Ensures Q R (fun o => ∀ s ∈ o, s.Typed A) (propertyNames ctx raw) := by
  have hnone : Ensures Q R (fun o => ∀ s ∈ o, s.Typed A) (pure none : Compiling (Option Schema)) :=
    ensures_pure fun _ hs => nomatch hs
  unfold propertyNames
  split
  · exact hnone
  · next part hpart =>
    have hmem : part ∈ raw.single "propertyNames" := by
      rw [RawSchema.single, Option.mem_toList]
      exact Json.eq_some_of_present hpart
    refine (ensures_attach (ensures_compile hQ (h part hmem)) _ _).bind fun schema hschema => ?_
    split
    · exact hnone
    · split
      · exact ensures_pure hschema
      · exact ensures_noteError_bind hQ (by decide) hnone

theorem ensures_dependencies (hQ : OnReferences Q) :
    (dependencies raw).Ensures Q fun _ => True := by
  have hlist : ∀ fields, (dependencyList fields).Ensures Q fun _ => True := by
    intro fields
    induction fields with
    | nil => exact Noted.ensures_pure trivial
    | cons e rest ih =>
      unfold dependencyList
      have hfield : "dependencies" ≠ "$ref" := by decide
      dsimp only
      split
      · exact ensures_error_bind hQ hfield ih
      · exact ih.bind fun _ _ => Noted.ensures_pure trivial
  unfold dependencies
  split
  · exact Noted.ensures_pure trivial
  · exact Noted.ensures_pure trivial
  · exact (hlist _).bind fun _ _ => Noted.ensures_pure trivial
  · exact ensures_error_bind hQ (by decide) (Noted.ensures_pure trivial)

theorem ensures_object (hQ : OnReferences Q) (hA : A "object")
    (hproperties : ∀ part ∈ raw.named "properties", ∀ f, normalize part = .ok f →
      NestedEnsures Q R A ctx f)
    (hnames : ∀ part ∈ raw.single "propertyNames", ∀ f, normalize part = .ok f →
      NestedEnsures Q R A ctx f) :
    Ensures Q R (fun o => ∀ s ∈ o, s.Typed A) (object ctx raw) := by
  refine (ensures_lift (ensures_required hQ)).bind fun _ _ =>
    (ensures_lift (ensures_flag hQ (by decide) _)).bind fun _ _ =>
    (ensures_lift (ensures_checkedDefault hQ _ _)).bind fun _ _ =>
    (ensures_lift (ensures_coerced hQ (by decide) _)).bind fun listed _ =>
    (ensures_properties hQ _ hproperties).bind fun table htable =>
    (ensures_propertyNames hQ hnames).bind fun names hnamesTyped =>
    (ensures_lift (ensures_dependencies hQ)).bind fun _ _ =>
    (ensures_lift (ensures_flag hQ (by decide) _)).bind fun _ _ => ensures_pure fun s hs => ?_
  obtain rfl := Option.some.inj hs
  obtain ⟨hnamed, hpatterns⟩ := List.forall_mem_append.1 htable
  refine Schema.typed_iff.2 ⟨hA, fun c hc => ?_⟩
  rcases List.mem_append.1 hc with hc | hc
  · rcases List.mem_append.1 hc with hc | hc
    · rw [getD_nonEmpty] at hc
      exact hnamed c hc
    · rw [getD_nonEmpty] at hc
      exact hpatterns c hc
  · exact hnamesTyped c (Option.mem_toList.1 hc)

/-! ## All kinds -/

/-- **A raw schema ensures what the schemas in it do**, if it does as a reference. -/
theorem ensures_compileIn (options : CompilerOptions) (hQ : OnReferences Q)
    (hA : ∀ type, Compiler.typeName? raw = some type → type ≠ "ref" → A type)
    (h : ∀ c ∈ raw.children, NestedEnsures Q R A ctx c)
    (href : Compiler.typeName? raw = some "ref" →
      Ensures Q R (fun o => ∀ s ∈ o, s.Typed A) (reference ctx raw)) :
    Run.Ensures Q R (Schema.Typed A) ((Compiler.builtin options).compileIn ctx raw) := by
  unfold Compiler.compileIn
  split
  · exact Run.ensures_failed (hQ _ _ (by decide))
  · next name hname =>
    have hparts : ∀ part ∈ raw.partsOf name, ∀ f, normalize part = .ok f →
        NestedEnsures Q R A ctx f := fun part hpart f hf =>
      h f (RawSchema.mem_children.2 ⟨part, by rwa [RawSchema.parts, hname], hf⟩)
    split
    · exact Run.ensures_failed (hQ _ _ (by decide))
    · next t ht =>
      have hmem : (name, t) ∈ TypeCompiler.builtin := Dict.mem_of_get? ht
      simp only [TypeCompiler.builtin, List.mem_cons, Prod.mk.injEq, List.not_mem_nil,
        or_false] at hmem
      rcases hmem with ⟨rfl, rfl⟩ | ⟨rfl, rfl⟩ | ⟨rfl, rfl⟩ | ⟨rfl, rfl⟩ | ⟨rfl, rfl⟩ |
        ⟨rfl, rfl⟩ | ⟨rfl, rfl⟩ | ⟨rfl, rfl⟩ | ⟨rfl, rfl⟩
      · exact Run.ensures_ofStep (ensures_array hQ (hA _ hname (by decide)) hparts)
      · exact Run.ensures_ofNoted (ensures_boolean hQ (hA _ hname (by decide)))
      · refine Run.ensures_ofStep (ensures_combine hQ (hA _ hname (by decide)) fun group hgroup =>
          fun part hpart => hparts part ?_)
        simp only [List.mem_cons, List.not_mem_nil, or_false] at hgroup
        rcases hgroup with rfl | rfl | rfl
        · exact List.mem_append_left _ (List.mem_append_left _ hpart)
        · exact List.mem_append_left _ (List.mem_append_right _ hpart)
        · exact List.mem_append_right _ hpart
      · exact Run.ensures_ofNoted (ensures_integer hQ (hA _ hname (by decide)))
      · exact Run.ensures_ofNoted (ensures_null hQ (hA _ hname (by decide)))
      · exact Run.ensures_ofNoted (ensures_number hQ (hA _ hname (by decide)))
      · exact Run.ensures_ofStep (ensures_object hQ (hA _ hname (by decide))
          (fun part hpart => hparts part (List.mem_append_left _ hpart))
          fun part hpart => hparts part (List.mem_append_right _ hpart))
      · exact Run.ensures_ofStep (href hname)
      · exact Run.ensures_ofNoted (ensures_string hQ (hA _ hname (by decide)))

/-! ## References -/

/-- A property of the registry and the raw schema that holds of what comes up while the raw schema
is compiled, and what it says of the errors and the types that arise. -/
structure Tracks (I : Registry → RawSchema → Prop) (Q : String → String → Prop)
    (A : String → Prop) : Prop where
  child : ∀ {r raw c}, I r raw → c ∈ raw.children → ∀ required, I r (asProperty required c)
  merged : ∀ {r raw path target}, I r raw → Refers r raw path target → ¬ r.Busy path →
    I (r.mark path .compiling) (inherit target (overrides raw))
  type : ∀ {r raw type}, I r raw → Compiler.typeName? raw = some type → type ≠ "ref" → A type
  recursive : ∀ {r raw path target}, I r raw → Refers r raw path target → r.Busy path →
    A "ref" ∧ ∀ name, (Compile.recursive name target (overrides raw)).Ensures Q fun _ => True
  onReferences : OnReferences Q
  unresolved : ∀ name, Q "$ref" ("no definition found for $ref(" ++ name ++ ").")
  notText : ∀ given, Q "$ref" ("$ref must be a non-empty string, but got (" ++ given ++ ").")

theorem recursive_kind (name : String) (target more : RawSchema) :
    ∀ s ∈ (recursive name target more).result, s.typeName = "ref" ∧ s.children = [] := by
  unfold recursive
  split
  · exact fun _ hs => nomatch hs
  · dsimp only
    split
    · exact fun _ hs => nomatch hs
    · intro s hs
      obtain rfl := Option.some.inj hs
      exact ⟨rfl, rfl⟩

theorem ensures_reference {I : Registry → RawSchema → Prop} (h : Tracks I Q A) (hI : I r raw)
    (htype : Compiler.typeName? raw = some "ref")
    (hn : ∀ path target, Refers r raw path target → ¬ r.Busy path →
      Run.Ensures Q (·.Alike (r.mark path .compiling)) (Schema.Typed A)
        (ctx.nested (inherit target (overrides raw)))) :
    Ensures Q (·.Alike r) (fun o => ∀ s ∈ o, s.Typed A) (reference ctx raw) := by
  have hnone : Ensures Q (·.Alike r) (fun o => ∀ s ∈ o, s.Typed A)
      (pure none : Compiling (Option Schema)) := ensures_pure fun _ hs => nomatch hs
  have hnotText : ∀ given, Ensures Q (·.Alike r) (fun o => ∀ s ∈ o, s.Typed A)
      (reference.notText given) := fun given =>
    (ensures_noteError (h.notText _)).bind fun _ _ => hnone
  unfold reference
  split
  · next name hname =>
    split
    · exact hnotText _
    · next hne =>
      refine ensures_get_bind fun s hs => ?_
      split
      · exact (ensures_noteError (h.unresolved name)).bind fun _ _ => hnone
      · next path target state htarget =>
        obtain ⟨hpath, hraw, hstate⟩ := target?_eq_some htarget
        rw [Registry.resolve_congr hs.unmarked] at hpath
        rw [Registry.raw?_congr hs.unmarked] at hraw
        have hrefers : Refers r raw path target := by
          refine ⟨htype, ?_⟩
          simp [referent?, hname, hne, hpath, hraw]
        have hbusy : r.Busy path ↔ state = .compiling := by
          rw [← hs.busy path, Registry.Busy, hstate, Option.some.injEq]
        split
        · next hcompiling =>
          obtain ⟨hA, hrecursive⟩ := h.recursive hI hrefers (hbusy.2 hcompiling)
          refine ensures_lift ⟨(hrecursive name).errors, fun s hs => ?_⟩
          obtain ⟨hkind, hchildren⟩ := recursive_kind name target (overrides raw) s hs
          exact Schema.typed_iff.2 ⟨hkind ▸ hA, fun c hc => by rw [hchildren] at hc; cases hc⟩
        · next hcompiling =>
          have hfree : ¬ r.Busy path := fun hb => hcompiling (hbusy.1 hb)
          refine ensures_attach (fun t ht => ?_) _ _
          obtain ⟨herrors, hstored, hkept⟩ := hn path target hrefers hfree
            (t.mark path .compiling) (ht.mark path Iff.rfl)
          exact ⟨herrors, hstored, hkept.restored hfree hcompiling⟩
  · exact hnotText _

/-- **What compiling ensures.** The leaves of the errors, and the types of the compiled nodes, are
what is said of the raw schemas that come up. -/
theorem ensures_compileWithin {I : Registry → RawSchema → Prop} (options : CompilerOptions)
    (h : Tracks I Q A) (n : Nat) (hI : I r raw) :
    Run.Ensures Q (·.Alike r) (Schema.Typed A) ((Compiler.builtin options).compileWithin n raw) := by
  induction n generalizing r raw with
  | zero => exact Run.ensures_failed (h.onReferences _ _ (by decide))
  | succ n ih =>
    rw [Compiler.compileWithin_succ]
    exact ensures_compileIn options h.onReferences (fun _ => h.type hI)
      (fun c hc required => ih (h.child hI hc required))
      fun htype => ensures_reference h hI htype fun path target hrefers hfree =>
        ih (h.merged hI hrefers hfree)

end Compile

end DataSchema
