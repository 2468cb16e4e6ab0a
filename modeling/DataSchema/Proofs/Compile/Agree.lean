import DataSchema.Proofs.Agree
import DataSchema.Proofs.Compile.Merge
import Mathlib.Data.List.Forall2
import Mathlib.Data.Option.Basic

/-!
# Compiling similar raw schemas

Two raw schemas of one type are `Similar` if they have the same fields, apart from those that hold
schemas, and the schemas in these correspond. If corresponding schemas compile to the same then so
do the two raw schemas (`agree_compileIn`): this is the one place that goes through the types. It
is said for two contexts, two registries and a relation of the registries that nested runs
preserve.

References have no schemas in them, and what they compile to depends on the registry, so the law for
them is a hypothesis.
-/

namespace DataSchema

/-- Compiles a raw schema by the compiler of its type. -/
def Compiler.compileIn (c : Compiler) (ctx : Compile.Context) (raw : RawSchema) :
    Compile.Run Schema :=
  match Compiler.typeName? raw with
  | none => .failed (.of "type"
    ("type must be a non-empty string, but got (" ++ Json.shown (raw.get? "type") ++ ")."))
  | some name => match c.types.get? name with
    | none => .failed (.of "type" ("unknown type (" ++ name ++ ")."))
    | some t => t.compile ctx raw

theorem Compiler.compileWithin_succ (c : Compiler) (n : Nat) (raw : RawSchema) :
    c.compileWithin (n + 1) raw = c.compileIn (c.context n) raw := rfl

namespace Compile

open Step

/-! ## Similar raw schemas -/

/-- Values that stand for corresponding schemas, or for none. -/
inductive Paired (A : RawSchema → RawSchema → Prop) : Json → Json → Prop
  | same {j : Json} {d : Diagnostic} (h : normalize j = .error d) : Paired A j j
  | fields {j j' : Json} {f f' : RawSchema} (h : normalize j = .ok f) (h' : normalize j' = .ok f')
      (rel : A f f') : Paired A j j'

/-- Lists of schemas that correspond one by one, or no lists. -/
inductive PairedGroup (A : RawSchema → RawSchema → Prop) : Json → Json → Prop
  | same {j : Json} (h : ∀ items, j ≠ .arr items) : PairedGroup A j j
  | arr {items items' : List Json} (h : List.Forall₂ (Paired A) items items') :
      PairedGroup A (.arr items) (.arr items')

/-- Schemas of properties that correspond, and have names of the same type. -/
def PairedProperty (A : RawSchema → RawSchema → Prop) (required : Bool) (f f' : RawSchema) : Prop :=
  A (asProperty required f) (asProperty required f') ∧
    Json.present ((asProperty required f).get? "nameType") =
      Json.present ((asProperty required f').get? "nameType")

/-- Properties that correspond one by one, or no properties. The list of required names changes
while properties are compiled, but for a property no more than by itself: if no name stands twice,
what counts is the list at first. -/
inductive PairedProperties (A : RawSchema → RawSchema → Prop) (listed : List String) :
    Json → Json → Prop
  | same {j : Json} (h : ∀ fields, j ≠ .obj fields) : PairedProperties A listed j j
  | obj {fields fields' : List (String × Json)}
      (h : List.Forall₂ (fun e e' => e.1 = e'.1 ∧
        ∀ required, ((Dict.keys fields).Nodup → required = listed.contains e.1) →
          Paired (PairedProperty A required) e.2 e'.2) fields fields') :
      PairedProperties A listed (.obj fields) (.obj fields')

/-- The names that an object lists as required. -/
def listedNames (raw : RawSchema) : List String :=
  (Coerce.array Coerce.string (some []) (raw.get? "requiredProperties")).value.getD []

theorem listedNames_congr {raw raw' : RawSchema}
    (h : Json.present (raw.get? "requiredProperties") =
      Json.present (raw'.get? "requiredProperties")) : listedNames raw = listedNames raw' := by
  have hpresent : ∀ j, Coerce.array Coerce.string (some []) j =
      Coerce.array Coerce.string (some []) (Json.present j) := by
    intro j
    cases j with
    | none => rfl
    | some j => cases j <;> rfl
  rw [listedNames, listedNames, hpresent, h, ← hpresent]

/-- The fields that hold schemas, or are read for whole schemas and properties only. -/
def structural : List String :=
  ["items", "properties", "propertyNames", "allOf", "anyOf", "oneOf", "$id", "definitions",
    "nameType"]

/-- Raw schemas that have the same fields, apart from the schemas in them. -/
def Plain (raw raw' : RawSchema) : Prop := ∀ field ∉ structural, raw.get? field = raw'.get? field

/-- Raw schemas that have the same fields, and corresponding schemas in them. -/
structure Similar (A : RawSchema → RawSchema → Prop) (raw raw' : RawSchema) : Prop where
  plain : Plain raw raw'
  items : Compiler.typeName? raw = some "array" →
    Option.Rel (Paired A) (raw.get? "items") (raw'.get? "items")
  group : Compiler.typeName? raw = some "combine" → ∀ name ∈ ["allOf", "anyOf", "oneOf"],
    Option.Rel (PairedGroup A) (raw.get? name) (raw'.get? name)
  properties : Compiler.typeName? raw = some "object" →
    Option.Rel (PairedProperties A (listedNames raw)) (raw.get? "properties")
      (raw'.get? "properties")
  propertyNames : Compiler.typeName? raw = some "object" →
    Option.Rel (Paired A) (raw.get? "propertyNames") (raw'.get? "propertyNames")

/-! ## Scalars -/

variable {raw raw' : RawSchema}

theorem Plain.typeName? (h : Plain raw raw') :
    Compiler.typeName? raw' = Compiler.typeName? raw := by
  simp (disch := decide) only [Compiler.typeName?, h "type"]

theorem Plain.required (h : Plain raw raw') : Compile.required raw' = Compile.required raw := by
  simp (disch := decide) only [Compile.required, flag, h "required"]

theorem Plain.checkedDefault (h : Plain raw raw') (expected : String) (test : Json → Bool) :
    Compile.checkedDefault raw' expected test = Compile.checkedDefault raw expected test := by
  simp (disch := decide) only [Compile.checkedDefault, rawDefault, h "default"]

theorem Plain.boolean (h : Plain raw raw') : boolean raw' = boolean raw := by
  simp (disch := decide) only [Compile.boolean, h.required, h "default"]

theorem Plain.null (h : Plain raw raw') : null raw' = null raw := by
  simp (disch := decide) only [Compile.null, h.required, h "default"]

theorem Plain.members {α : Type} (h : Plain raw raw') (element : Coerce.Reader α) :
    Compile.members raw' element = Compile.members raw element := by
  simp (disch := decide) only [Compile.members, h "enum"]

theorem Plain.number (h : Plain raw raw') : number raw' = number raw := by
  simp (disch := decide) only [Compile.number, h.required, h.members, h "default", h "minimum",
    h "maximum", h "exclusiveMinimum", h "exclusiveMaximum"]

theorem Plain.integer (h : Plain raw raw') : integer raw' = integer raw := by
  simp (disch := decide) only [Compile.integer, roundedBound, h.required, h.members, h "default",
    h "minimum", h "maximum", h "exclusiveMinimum", h "exclusiveMaximum"]

theorem Plain.string (h : Plain raw raw') : string raw' = string raw := by
  simp (disch := decide) only [Compile.string, minLength, maxLength, knownNames, names, h.required,
    h.members, h "default", h "pattern", h "minLength", h "maxLength", h "format", h "transform"]

/-! ## Parts -/

variable {view : View} {R : Registry → Registry → Prop} {ctx ctx' : Context}

/-- Two contexts compile two raw schemas to the same. -/
def NestedAgree (view : View) (R : Registry → Registry → Prop) (ctx ctx' : Context)
    (raw raw' : RawSchema) : Prop :=
  Run.Agree view R (ctx.nested raw) (ctx'.nested raw')

theorem agree_compile {j j' : Json} (h : Paired (NestedAgree view R ctx ctx') j j') :
    Run.Agree view R (ctx.compile j) (ctx'.compile j') := by
  unfold Context.compile
  cases h with
  | same h =>
    rw [h]
    exact Run.agree_failed _
  | fields h h' rel =>
    rw [h, h']
    exact rel

theorem Paired.eq_null_iff {A : RawSchema → RawSchema → Prop} {j j' : Json} (h : Paired A j j') :
    j = .null ↔ j' = .null := by
  cases h with
  | same => exact Iff.rfl
  | fields h h' =>
    constructor
    · rintro rfl
      cases h
    · rintro rfl
      cases h'

/-- Values that correspond are set both or neither. -/
theorem present_paired {A : RawSchema → RawSchema → Prop} {j j' : Option Json}
    (h : Option.Rel (Paired A) j j') :
    Option.Rel (Paired A) (Json.present j) (Json.present j') := by
  cases h with
  | none => exact .none
  | @some j j' h =>
    by_cases hj : j = .null
    · obtain rfl := hj
      obtain rfl : j' = .null := h.eq_null_iff.1 rfl
      exact .none
    · have hj' : j' ≠ .null := fun heq => hj (h.eq_null_iff.2 heq)
      rw [Json.present_of_ne_null (by simpa using hj), Json.present_of_ne_null (by simpa using hj')]
      exact .some h

theorem items_eq (ctx : Context) (raw : RawSchema) :
    items ctx raw = match Json.present (raw.get? "items") with
      | none => do
        noteError (.of "items" "items is required, but got (undefined).")
        return none
      | some items => attach "items" (ctx.compile items) none := by
  unfold items Json.present
  split <;> simp_all

theorem agree_items
    (h : Option.Rel (Paired (NestedAgree view R ctx ctx')) (raw.get? "items") (raw'.get? "items")) :
    Agree view R (items ctx raw) (items ctx' raw') := by
  rw [items_eq, items_eq]
  have hpresent := present_paired h
  generalize Json.present (raw.get? "items") = j at hpresent
  generalize Json.present (raw'.get? "items") = j' at hpresent
  cases hpresent with
  | none => exact (agree_noteError _).bind fun _ => agree_pure _
  | some h => exact agree_attach (agree_compile h) _ _

theorem agree_array (h : Plain raw raw')
    (hitems : Option.Rel (Paired (NestedAgree view R ctx ctx')) (raw.get? "items")
      (raw'.get? "items")) :
    Agree view R (array ctx raw) (array ctx' raw') := by
  have hunique : flag raw' "unique" false = flag raw "unique" false := by
    simp (disch := decide) only [flag, h "unique"]
  unfold array
  rw [h.required, hunique, h.checkedDefault]
  refine (agree_lift _).bind fun required => (agree_lift _).bind fun unique =>
    (agree_lift _).bind fun default => (agree_items hitems).bind fun items => ?_
  cases items with
  | none => exact agree_pure _
  | some items => exact agree_pure _

/-! ## Combinations -/

theorem agree_groupMembers {name : String} {items items' : List Json}
    (h : List.Forall₂ (Paired (NestedAgree view R ctx ctx')) items items') (i : Nat) :
    Agree view R (groupMembers ctx name i items) (groupMembers ctx' name i items') := by
  induction h generalizing i with
  | nil => exact agree_pure _
  | cons h _ ih =>
    exact (agree_attach (agree_compile h) _ _).bind fun member => (ih (i + 1)).bind fun _ =>
      agree_pure _

theorem agree_group {name : String}
    (h : Option.Rel (PairedGroup (NestedAgree view R ctx ctx')) (raw.get? name) (raw'.get? name)) :
    Agree view R (group ctx raw name) (group ctx' raw' name) := by
  unfold group
  generalize raw.get? name = j at h
  generalize raw'.get? name = j' at h
  cases h with
  | none => exact agree_pure _
  | some h => cases h with
    | arr h => exact (agree_groupMembers h 0).bind fun _ => agree_pure _
    | same h =>
      rename_i j
      cases j with
      | null => exact agree_pure _
      | arr items => exact absurd rfl (h items)
      | bool | num | str | obj => exact (agree_noteError _).bind fun _ => agree_pure _

theorem declaresGroup_eq {A : RawSchema → RawSchema → Prop} {name : String}
    (h : Option.Rel (PairedGroup A) (raw.get? name) (raw'.get? name)) :
    declaresGroup raw' name = declaresGroup raw name := by
  unfold declaresGroup
  generalize raw.get? name = j at h
  generalize raw'.get? name = j' at h
  cases h with
  | none => rfl
  | some h => cases h with
    | same => rfl
    | arr h => cases h <;> rfl

theorem agree_combine (h : Plain raw raw')
    (hgroup : ∀ name ∈ ["allOf", "anyOf", "oneOf"],
      Option.Rel (PairedGroup (NestedAgree view R ctx ctx')) (raw.get? name) (raw'.get? name)) :
    Agree view R (combine ctx raw) (combine ctx' raw') := by
  have hstrategy : strategy raw' = strategy raw := by
    simp (disch := decide) only [strategy, h "strategy"]
  have hdefault : rawDefault raw' = rawDefault raw := by
    simp (disch := decide) only [rawDefault, h "default"]
  have hdeclares : ∀ name ∈ ["allOf", "anyOf", "oneOf"],
      declaresGroup raw' name = declaresGroup raw name := fun name hname =>
    declaresGroup_eq (hgroup name hname)
  have hany : ["allOf", "anyOf", "oneOf"].any (declaresGroup raw') =
      ["allOf", "anyOf", "oneOf"].any (declaresGroup raw) := by
    rw [Bool.eq_iff_iff, List.any_eq_true, List.any_eq_true]
    refine exists_congr fun name => and_congr_right fun hname => ?_
    rw [hdeclares name hname]
  unfold combine
  rw [h.required, hstrategy, hdefault, hany]
  refine (agree_lift _).bind fun required => (agree_lift _).bind fun strategy =>
    (agree_group (hgroup "allOf" (by simp))).bind fun allOf =>
    (agree_group (hgroup "anyOf" (by simp))).bind fun anyOf =>
    (agree_group (hgroup "oneOf" (by simp))).bind fun oneOf => ?_
  split
  · exact agree_pure _
  · exact (agree_noteError _).bind fun _ => agree_pure _

/-! ## Objects -/

theorem coerce_string_present (default : Option String) (j : Option Json) :
    Coerce.string default (Json.present j) = Coerce.string default j := by
  unfold Json.present
  split <;> rfl

theorem agree_notePropertyError (name reason : String) :
    Agree view R (notePropertyError name reason) (notePropertyError name reason) :=
  agree_noteError _

/-- Entering a property has to do with the type of its name, and not with the registry. -/
theorem agree_enter (table : PropertyTable) (name : String) {nameType nameType' : Option Json}
    (h : Json.present nameType = Json.present nameType') (schema : Schema) :
    Agree view R (enter table name nameType schema) (enter table name nameType' schema) := by
  unfold enter
  rw [← coerce_string_present _ nameType, ← coerce_string_present _ nameType', h]
  generalize Coerce.string (some "string") (Json.present nameType') = kind
  dsimp only
  split
  · exact (agree_notePropertyError _ _).bind fun _ => agree_pure _
  · split
    · split
      · exact agree_pure _
      · exact (agree_notePropertyError _ _).bind fun _ => agree_pure _
    · exact agree_pure _
    · exact agree_pure _
    · exact (agree_notePropertyError _ _).bind fun _ => agree_pure _

theorem agree_property (table : PropertyTable) (name : String) {j j' : Json}
    (h : Paired (PairedProperty (NestedAgree view R ctx ctx') (table.required.contains name))
      j j') :
    Agree view R (property ctx table name j) (property ctx' table name j') := by
  unfold property
  cases h with
  | same h =>
    rw [h]
    exact (agree_noteError _).bind fun _ => agree_pure _
  | fields h h' rel =>
    rw [h, h']
    obtain ⟨hnested, hnameType⟩ := rel
    refine (agree_attach hnested _ _).bind fun schema => ?_
    cases schema with
    | none => exact agree_pure _
    | some schema => exact agree_enter _ name hnameType schema

/-- The list changes by the property itself only. -/
theorem contains_reconciled {required : List String} {name other : String} {isRequired : Bool}
    (h : name ≠ other) :
    (reconciled required name isRequired).contains other = required.contains other := by
  have hother : ¬ other = name := fun heq => h heq.symm
  unfold reconciled
  split
  · split
    · rfl
    · simp [hother]
  · rw [Bool.eq_iff_iff, List.contains_iff_mem, List.contains_iff_mem]
    exact List.mem_erase_of_ne hother

theorem required_of_gives_enter {table table' : PropertyTable} {name : String}
    {nameType : Option Json} {schema : Schema}
    (h : (enter table name nameType schema).Gives table') :
    table'.required = table.required := by
  unfold enter at h
  dsimp only at h
  split at h
  · obtain ⟨_, -, s, rfl⟩ := gives_bind h
    rfl
  · split at h
    · split at h
      · obtain ⟨s, rfl⟩ := h
        rfl
      · obtain ⟨_, -, s, rfl⟩ := gives_bind h
        rfl
    · obtain ⟨s, rfl⟩ := h
      rfl
    · obtain ⟨s, rfl⟩ := h
      rfl
    · obtain ⟨_, -, s, rfl⟩ := gives_bind h
      rfl

theorem contains_of_gives_property {table table' : PropertyTable} {name other : String} {j : Json}
    (h : (property ctx table name j).Gives table') (hne : name ≠ other) :
    table'.required.contains other = table.required.contains other := by
  unfold property at h
  split at h
  · obtain ⟨_, -, s, rfl⟩ := gives_bind h
    rfl
  · obtain ⟨schema, -, h⟩ := gives_bind h
    split at h
    · obtain ⟨s, rfl⟩ := h
      rfl
    · rw [required_of_gives_enter h]
      exact contains_reconciled hne

theorem agree_propertyList {table : PropertyTable} {fields fields' : List (String × Json)}
    (h : List.Forall₂ (fun e e' => e.1 = e'.1 ∧
      ∀ required, ((Dict.keys fields).Nodup → required = table.required.contains e.1) →
        Paired (PairedProperty (NestedAgree view R ctx ctx') required) e.2 e'.2) fields fields') :
    Agree view R (propertyList ctx table fields) (propertyList ctx' table fields') := by
  induction fields generalizing table fields' with
  | nil =>
    cases h
    exact agree_pure _
  | cons e rest ih =>
    cases h with
    | @cons _ e' _ rest' he hrest =>
    obtain ⟨name, j⟩ := e
    obtain ⟨name', j'⟩ := e'
    obtain ⟨rfl, hj⟩ : name = name' ∧ _ := he
    refine (agree_property table name (hj _ fun _ => rfl)).bind_gives fun table' htable => ?_
    have hne : ∀ e ∈ rest, (Dict.keys ((name, j) :: rest)).Nodup → name ≠ e.1 := by
      rintro e he hnodup rfl
      exact (List.nodup_cons.1 hnodup).1 (List.mem_map.2 ⟨e, he, rfl⟩)
    have hboth := (List.forall₂_and_left rest rest').2 ⟨hne, hrest⟩
    refine ih (hboth.imp fun e e' hee => ⟨hee.2.1, fun required hrequired => ?_⟩)
    refine hee.2.2 required fun hnodup => ?_
    rw [hrequired (List.nodup_cons.1 hnodup).2]
    exact contains_of_gives_property htable (hee.1 hnodup)

theorem agree_properties {listed : List String}
    (h : Option.Rel (PairedProperties (NestedAgree view R ctx ctx') listed) (raw.get? "properties")
      (raw'.get? "properties")) :
    Agree view R (properties ctx raw listed) (properties ctx' raw' listed) := by
  unfold properties
  generalize raw.get? "properties" = j at h
  generalize raw'.get? "properties" = j' at h
  cases h with
  | none => exact agree_pure _
  | some h => cases h with
    | obj h => exact agree_propertyList h
    | same h =>
      rename_i j
      cases j with
      | null => exact agree_pure _
      | obj fields => exact absurd rfl (h fields)
      | bool | num | str | arr => exact (agree_noteError _).bind fun _ => agree_pure _

theorem agree_propertyNames
    (h : Option.Rel (Paired (NestedAgree view R ctx ctx')) (raw.get? "propertyNames")
      (raw'.get? "propertyNames")) :
    Agree view R (propertyNames ctx raw) (propertyNames ctx' raw') := by
  unfold propertyNames
  have hpresent := present_paired h
  generalize Json.present (raw.get? "propertyNames") = j at hpresent
  generalize Json.present (raw'.get? "propertyNames") = j' at hpresent
  cases hpresent with
  | none => exact agree_pure _
  | some h =>
    refine (agree_attach (agree_compile h) _ _).bind fun schema => ?_
    split
    · exact agree_pure _
    · split
      · exact agree_pure _
      · exact (agree_noteError _).bind fun _ => agree_pure _

theorem agree_object (h : Plain raw raw')
    (hproperties : Option.Rel (PairedProperties (NestedAgree view R ctx ctx') (listedNames raw))
      (raw.get? "properties") (raw'.get? "properties"))
    (hnames : Option.Rel (Paired (NestedAgree view R ctx ctx')) (raw.get? "propertyNames")
      (raw'.get? "propertyNames")) :
    Agree view R (object ctx raw) (object ctx' raw') := by
  have hsilent : flag raw' "silentIgnore" false = flag raw "silentIgnore" false := by
    simp (disch := decide) only [flag, h "silentIgnore"]
  have hlisted : raw'.get? "requiredProperties" = raw.get? "requiredProperties" := by
    simp (disch := decide) only [h "requiredProperties"]
  have hdependencies : dependencies raw' = dependencies raw := by
    simp (disch := decide) only [dependencies, h "dependencies"]
  have hallow : ∀ default, flag raw' "allowAdditionalProperties" default =
      flag raw "allowAdditionalProperties" default := by
    intro default
    simp (disch := decide) only [flag, h "allowAdditionalProperties"]
  unfold object
  rw [h.required, hsilent, h.checkedDefault, hlisted, hdependencies]
  simp only [hallow]
  refine (agree_lift _).bind fun required => (agree_lift _).bind fun silentIgnore =>
    (agree_lift _).bind fun default => (agree_lift _).bind_gives fun listed hgives => ?_
  obtain rfl := gives_lift hgives
  refine (agree_properties hproperties).bind fun table => (agree_propertyNames hnames).bind
    fun names => (agree_lift _).bind fun dependencies => (agree_lift _).bind fun allow => ?_
  exact agree_pure _

/-! ## All types -/

/-- **Similar raw schemas compile to the same** if references do. -/
theorem agree_compileIn {options : CompilerOptions}
    (h : Similar (NestedAgree view R ctx ctx') raw raw')
    (href : Compiler.typeName? raw = some "ref" →
      Agree view R (reference ctx raw) (reference ctx' raw')) :
    Run.Agree view R ((Compiler.builtin options).compileIn ctx raw)
      ((Compiler.builtin options).compileIn ctx' raw') := by
  have htype : raw'.get? "type" = raw.get? "type" := (h.plain "type" (by decide)).symm
  unfold Compiler.compileIn
  rw [h.plain.typeName?, htype]
  split
  · exact Run.agree_failed _
  · next name hname =>
    split
    · exact Run.agree_failed _
    · next t ht =>
      have hmem : (name, t) ∈ TypeCompiler.builtin := Dict.mem_of_get? ht
      simp only [TypeCompiler.builtin, List.mem_cons, Prod.mk.injEq, List.not_mem_nil,
        or_false] at hmem
      rcases hmem with ⟨rfl, rfl⟩ | ⟨rfl, rfl⟩ | ⟨rfl, rfl⟩ | ⟨rfl, rfl⟩ | ⟨rfl, rfl⟩ |
        ⟨rfl, rfl⟩ | ⟨rfl, rfl⟩ | ⟨rfl, rfl⟩ | ⟨rfl, rfl⟩
      · exact Run.agree_ofStep (agree_array h.plain (h.items hname))
      · exact Run.agree_ofNoted h.plain.boolean
      · exact Run.agree_ofStep (agree_combine h.plain (h.group hname))
      · exact Run.agree_ofNoted h.plain.integer
      · exact Run.agree_ofNoted h.plain.null
      · exact Run.agree_ofNoted h.plain.number
      · exact Run.agree_ofStep (agree_object h.plain (h.properties hname) (h.propertyNames hname))
      · exact Run.agree_ofStep (href hname)
      · exact Run.agree_ofNoted h.plain.string

end Compile

end DataSchema
