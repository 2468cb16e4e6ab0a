import DataSchema.Proofs.Compile.Nesting

/-!
# Places in schemas

A `Place` leads from a schema to one that stands directly in it, in the raw schema (`RawSchema.at?`)
as in the compiled one (`Schema.at?`). No place leads out of a reference.

**Theorem (`at_of_ends`).** If a raw schema compiles without error, then the raw schema at some
places in it was compiled to the schema at the same places, in a registry that is alike and with a
depth that is still enough.

A property is followed into the table that its object is compiled to, where it stands under its
name or as the pattern that is its name (`PropertyTable.lookup?`). It is entered once, since the
names of properties are distinct.
-/

namespace DataSchema

/-- A step from a schema to one that stands directly in it. -/
inductive Place where
  /-- The elements of an array. -/
  | items
  /-- A member of a group of a combination, by its index. -/
  | member (group : String) (i : Nat)
  /-- A property of an object, by its name or by its pattern. -/
  | property (name : String)
  /-- The names of the additional properties of an object. -/
  | names
deriving DecidableEq, Repr

/-- The type of the schemas that have such a place. -/
def Place.type : Place → String
  | .items => "array"
  | .member _ _ => "combine"
  | .property _ | .names => "object"

namespace RawSchema

/-- The value at a place. -/
def part? (raw : RawSchema) : Place → Option Json
  | .items => raw.get? "items"
  | .member group i => if group ∈ ["allOf", "anyOf", "oneOf"] then (raw.grouped group)[i]? else none
  | .property name => (raw.get? "properties").bind fun properties => properties.field? name
  | .names => raw.get? "propertyNames"

/-- Whether a place is a property that is listed as required. -/
def lists (raw : RawSchema) : Place → Bool
  | .property name => (Compile.listedNames raw).contains name
  | _ => false

/-- What is compiled at a place: a property that is listed as required says so itself. -/
def child? (raw : RawSchema) (place : Place) : Option RawSchema :=
  if Compiler.typeName? raw = some place.type then
    (raw.part? place).bind fun part =>
      (normalize part).toOption.map (Compile.asProperty (raw.lists place))
  else none

/-- What is compiled at the end of some places. -/
def at? (raw : RawSchema) : List Place → Option RawSchema
  | [] => some raw
  | place :: rest => (raw.child? place).bind fun child => child.at? rest

end RawSchema

/-- The members of a group. -/
def CombineSchema.group (c : CombineSchema) : String → List Schema
  | "allOf" => c.allOf.getD []
  | "anyOf" => c.anyOf.getD []
  | "oneOf" => c.oneOf.getD []
  | _ => []

/-- The property with a name, or with a pattern that is written like it. -/
def ObjectSchema.property? (o : ObjectSchema) (name : String) : Option Schema :=
  match Dict.get? (o.properties.getD []) name with
  | some s => some s
  | none => ((o.regexNameProperties.getD []).find? fun p => p.1.source = name).map (·.2)

namespace Schema

/-- The schema at a place. -/
def child? (s : Schema) (place : Place) : Option Schema :=
  match place, s.kind with
  | .items, .array items _ => some items
  | .member group i, .combine c => (c.group group)[i]?
  | .property name, .object o => o.property? name
  | .names, .object o => o.propertyNames
  | _, _ => none

/-- The schema at the end of some places. -/
def at? (s : Schema) : List Place → Option Schema
  | [] => some s
  | place :: rest => (s.child? place).bind fun child => child.at? rest

end Schema

namespace Compile

open Step

variable {ctx : Context} {raw f : RawSchema} {r r' : Registry} {j : Json}

/-- Runs without error give a schema, and leave a registry that is alike. -/
def Steady (ctx : Context) : Prop :=
  ∀ {raw : RawSchema} {r r' : Registry} {o : Option Schema}, (ctx.nested raw).Ends r o r' →
    r'.Alike r ∧ ∃ s, o = some s

theorem steady_context (options : CompilerOptions) (n : Nat) :
    Steady ((Compiler.builtin options).context n) := by
  intro raw r r' o h
  obtain ⟨-, s, hs, -⟩ := sound_compileWithin options n h
  obtain ⟨-, hnear, -⟩ := agree_compileWithin options n (.refl r) raw r r ⟨.refl r, .refl r⟩
  obtain rfl : _ = r' := h.2.2
  exact ⟨hnear, s, hs⟩

/-- A raw schema was compiled to a schema in some registry that is alike to this one. -/
def CompiledTo (ctx : Context) (r : Registry) (f : RawSchema) (c : Schema) : Prop :=
  ∃ u u', u.Alike r ∧ (ctx.nested f).Ends u (some c) u'

theorem CompiledTo.alike {c : Schema} (h : CompiledTo ctx r f c) (hr : r.Alike r') :
    CompiledTo ctx r' f c := by
  obtain ⟨u, u', hu, hends⟩ := h
  exact ⟨u, u', hu.trans hr, hends⟩

theorem Steady.compile (hs : Steady ctx) {o : Option Schema} (h : (ctx.compile j).Ends r o r') :
    r'.Alike r ∧ ∃ c, o = some c ∧ ∀ f, normalize j = .ok f → CompiledTo ctx r f c := by
  unfold Context.compile at h
  split at h
  · next f hf =>
    obtain ⟨hr, c, rfl⟩ := hs h
    refine ⟨hr, c, rfl, fun f' hf' => ?_⟩
    obtain rfl : f = f' := by rw [hf] at hf'; exact Except.ok.inj hf'
    exact ⟨r, r', .refl r, h⟩
  · exact absurd h Run.not_ends_failed

/-! ## Arrays -/

theorem array_child (hs : Steady ctx) {s : Schema} (h : (array ctx raw).Yields r (some s) r')
    (hj : raw.get? "items" = some j) (hf : normalize j = .ok f) :
    ∃ c, s.child? .items = some c ∧ CompiledTo ctx r f c := by
  simp only [array, yields_bind, yields_lift] at h
  obtain ⟨required, _, ⟨-, rfl⟩, unique, _, ⟨-, rfl⟩, default, _, ⟨-, rfl⟩, items, _, hi, h⟩ := h
  have hne : j ≠ .null := by
    rintro rfl
    cases hf
  rw [items_eq, hj, Json.present_of_ne_null (by simpa using hne)] at hi
  obtain ⟨-, c, rfl, hc⟩ := hs.compile (yields_attach.1 hi)
  obtain ⟨hs, -⟩ := yields_pure.1 h
  obtain rfl := Option.some.inj hs
  exact ⟨c, rfl, hc f hf⟩

/-! ## Combinations -/

theorem groupMembers_child (hs : Steady ctx) {name : String} {start : Nat} {raws : List Json}
    {members : List Schema} (h : (groupMembers ctx name start raws).Yields r members r') :
    r'.Alike r ∧ ∀ (i : Nat) (j : Json) (f : RawSchema), raws[i]? = some j → normalize j = .ok f →
      ∃ c, members[i]? = some c ∧ CompiledTo ctx r f c := by
  induction raws generalizing r start members with
  | nil =>
    obtain ⟨rfl, rfl⟩ := yields_pure.1 h
    exact ⟨.refl r, by simp⟩
  | cons raw rest ih =>
    simp only [groupMembers, yields_bind, yields_attach] at h
    obtain ⟨member, u, hm, others, _, ho, h⟩ := h
    obtain ⟨rfl, rfl⟩ := yields_pure.1 h
    obtain ⟨hu, c, rfl, hc⟩ := hs.compile hm
    obtain ⟨hr, hothers⟩ := ih ho
    refine ⟨hr.trans hu, fun i j f hi hf => ?_⟩
    cases i with
    | zero =>
      obtain rfl : raw = j := Option.some.inj hi
      exact ⟨c, rfl, hc f hf⟩
    | succ i =>
      obtain ⟨c', hc', hto⟩ := hothers i j f hi hf
      exact ⟨c', hc', hto.alike hu⟩

theorem group_child (hs : Steady ctx) {name : String} {g : Option (List Schema)}
    (h : (group ctx raw name).Yields r g r') :
    r'.Alike r ∧ ∀ (i : Nat) (j : Json) (f : RawSchema), (raw.grouped name)[i]? = some j →
      normalize j = .ok f → ∃ c, (g.getD [])[i]? = some c ∧ CompiledTo ctx r f c := by
  unfold group at h
  unfold RawSchema.grouped
  cases hraw : raw.get? name with
  | none =>
    rw [hraw] at h
    obtain ⟨rfl, rfl⟩ := yields_pure.1 h
    exact ⟨.refl r, by simp⟩
  | some value =>
    rw [hraw] at h
    cases value with
    | null =>
      obtain ⟨rfl, rfl⟩ := yields_pure.1 h
      exact ⟨.refl r, by simp⟩
    | arr raws =>
      obtain ⟨members, _, hm, h⟩ := yields_bind.1 h
      obtain ⟨hr, hmembers⟩ := groupMembers_child hs hm
      obtain ⟨rfl, rfl⟩ := yields_pure.1 h
      rw [getD_nonEmpty]
      exact ⟨hr, hmembers⟩
    | bool | num | str | obj => exact absurd h not_yields_noteError_bind

theorem combine_child (hs : Steady ctx) {s : Schema} (h : (combine ctx raw).Yields r (some s) r')
    {name : String} (hname : name ∈ ["allOf", "anyOf", "oneOf"]) {i : Nat}
    (hj : (raw.grouped name)[i]? = some j) (hf : normalize j = .ok f) :
    ∃ c, s.child? (.member name i) = some c ∧ CompiledTo ctx r f c := by
  simp only [combine, yields_bind, yields_lift] at h
  obtain ⟨required, _, ⟨-, rfl⟩, strategy, _, ⟨-, rfl⟩, allOf, u₁, h₁, anyOf, u₂, h₂, oneOf, u₃, h₃,
    h⟩ := h
  obtain ⟨hu₁, hall⟩ := group_child hs h₁
  obtain ⟨hu₂, hany⟩ := group_child hs h₂
  obtain ⟨-, hone⟩ := group_child hs h₃
  rw [yields_ite] at h
  split at h
  · obtain ⟨heq, -⟩ := yields_pure.1 h
    obtain rfl := Option.some.inj heq
    simp only [List.mem_cons, List.not_mem_nil, or_false] at hname
    rcases hname with rfl | rfl | rfl
    · exact hall i j f hj hf
    · obtain ⟨c, hc, hto⟩ := hany i j f hj hf
      exact ⟨c, hc, hto.alike hu₁⟩
    · obtain ⟨c, hc, hto⟩ := hone i j f hj hf
      exact ⟨c, hc, hto.alike (hu₂.trans hu₁)⟩
  · exact absurd h not_yields_noteError_bind

/-! ## Objects -/

/-- The property with a name, or with a pattern that is written like it. -/
def PropertyTable.lookup? (table : PropertyTable) (name : String) : Option Schema :=
  match table.named.get? name with
  | some s => some s
  | none => (table.patterns.find? fun p => p.1.source = name).map (·.2)

theorem source_of_ofSource {name : String} {pattern : Pattern}
    (h : Pattern.ofSource name = .ok pattern) : pattern.source = name := by
  unfold Pattern.ofSource at h
  split at h
  · obtain rfl := Except.ok.inj h
    rfl
  · cases h

/-- A property that is entered for the first time is there, and the others are as they were. -/
theorem lookup?_enter {table table' : PropertyTable} {name : String} {nameType : Option Json}
    {s : Schema} (h : (enter table name nameType s).Yields r table' r')
    (hfresh : table.lookup? name = none) :
    r = r' ∧ table'.lookup? name = some s ∧
      ∀ other ≠ name, table'.lookup? other = table.lookup? other := by
  have hnamed : table.named.get? name = none ∧
      (table.patterns.find? fun p => p.1.source = name) = none := by
    unfold PropertyTable.lookup? at hfresh
    split at hfresh
    · cases hfresh
    · next hnone => exact ⟨hnone, Option.map_eq_none_iff.1 hfresh⟩
  have hinsert : PropertyTable.lookup? ⟨table.required, table.named.insert name s, table.patterns⟩
        name = some s ∧
      ∀ other ≠ name, PropertyTable.lookup? ⟨table.required, table.named.insert name s,
        table.patterns⟩ other = table.lookup? other := by
    refine ⟨?_, fun other hother => ?_⟩
    · simp [PropertyTable.lookup?, Dict.get?_insert]
    · simp [PropertyTable.lookup?, Dict.get?_insert, Ne.symm hother]
  simp only [enter, yields_ite] at h
  split at h
  · exact absurd h not_yields_noteError_bind
  · split at h
    · split at h
      · next pattern hpattern =>
        obtain ⟨rfl, rfl⟩ := yields_pure.1 h
        have hsource := source_of_ofSource hpattern
        refine ⟨rfl, ?_, fun other hother => ?_⟩
        · simp [PropertyTable.lookup?, hnamed.1, List.find?_append, hnamed.2, hsource]
        · have hne : ¬ pattern.source = other := fun heq => hother (heq.symm.trans hsource)
          simp [PropertyTable.lookup?, List.find?_append, hne]
      · exact absurd h not_yields_noteError_bind
    · obtain ⟨rfl, rfl⟩ := yields_pure.1 h
      exact ⟨rfl, hinsert⟩
    · obtain ⟨rfl, rfl⟩ := yields_pure.1 h
      exact ⟨rfl, hinsert⟩
    · exact absurd h not_yields_noteError_bind

theorem gives_of_yields {α : Type} {x : Compiling α} {a : α} (h : x.Yields r a r') : x.Gives a :=
  ⟨r, by rw [h.2]⟩

theorem property_child (hs : Steady ctx) {table table' : PropertyTable} {name : String}
    (h : (property ctx table name j).Yields r table' r') (hfresh : table.lookup? name = none) :
    r'.Alike r ∧ (∀ other ≠ name, table'.lookup? other = table.lookup? other) ∧
      ∀ f, normalize j = .ok f → ∃ c, table'.lookup? name = some c ∧
        CompiledTo ctx r (asProperty (table.required.contains name) f) c := by
  unfold property at h
  split at h
  · exact absurd h not_yields_noteError_bind
  · next f hf =>
    obtain ⟨o, u, ho, h⟩ := yields_bind.1 h
    obtain ⟨hu, s, rfl⟩ := hs (yields_attach.1 ho)
    obtain ⟨rfl, hname, hothers⟩ := lookup?_enter h hfresh
    refine ⟨hu, hothers, fun f' hf' => ?_⟩
    obtain rfl : f = f' := by rw [hf] at hf'; exact Except.ok.inj hf'
    exact ⟨s, hname, r, u, .refl r, yields_attach.1 ho⟩

theorem propertyList_child (hs : Steady ctx) {table table' : PropertyTable}
    {fields : List (String × Json)} (hnodup : (Dict.keys fields).Nodup)
    (h : (propertyList ctx table fields).Yields r table' r')
    (hfresh : ∀ e ∈ fields, table.lookup? e.1 = none) :
    r'.Alike r ∧ (∀ other ∉ Dict.keys fields, table'.lookup? other = table.lookup? other) ∧
      ∀ name j f, Dict.get? fields name = some j → normalize j = .ok f →
        ∃ c, table'.lookup? name = some c ∧
          CompiledTo ctx r (asProperty (table.required.contains name) f) c := by
  induction fields generalizing table r with
  | nil =>
    obtain ⟨rfl, rfl⟩ := yields_pure.1 h
    exact ⟨.refl r, fun _ _ => rfl, by simp⟩
  | cons e rest ih =>
    obtain ⟨key, value⟩ := e
    obtain ⟨hkey, hrest⟩ := List.nodup_cons.1 hnodup
    obtain ⟨mid, u, hp, h⟩ := yields_bind.1 h
    obtain ⟨hu, hothers, hc⟩ := property_child hs hp (hfresh _ List.mem_cons_self)
    have hne : ∀ e ∈ rest, e.1 ≠ key := by
      rintro e he rfl
      exact hkey (List.mem_map.2 ⟨e, he, rfl⟩)
    obtain ⟨hr, hkept, hall⟩ := ih hrest h fun e he => by
      rw [hothers _ (hne e he)]
      exact hfresh e (List.mem_cons_of_mem _ he)
    refine ⟨hr.trans hu, fun other hother => ?_, fun name j f hj hf => ?_⟩
    · have hother : other ≠ key ∧ other ∉ Dict.keys rest := by
        simpa [Dict.keys] using hother
      rw [hkept other hother.2, hothers other hother.1]
    · rw [Dict.get?_cons] at hj
      split at hj
      · next heq =>
        subst heq
        obtain rfl := Option.some.inj hj
        obtain ⟨c, hlookup, hto⟩ := hc f hf
        exact ⟨c, (hkept key hkey).trans hlookup, hto⟩
      · next hname =>
        obtain ⟨c, hlookup, hto⟩ := hall name j f hj hf
        rw [contains_of_gives_property (gives_of_yields hp) hname] at hto
        exact ⟨c, hlookup, hto.alike hu⟩

theorem properties_child (hs : Steady ctx) (hraw : Sorted raw) {listed : List String}
    {table : PropertyTable} (h : (properties ctx raw listed).Yields r table r') :
    r'.Alike r ∧ ∀ name j f, raw.part? (.property name) = some j → normalize j = .ok f →
      ∃ c, table.lookup? name = some c ∧
        CompiledTo ctx r (asProperty (listed.contains name) f) c := by
  unfold properties at h
  simp only [RawSchema.part?]
  cases hget : raw.get? "properties" with
  | none =>
    rw [hget] at h
    obtain ⟨rfl, rfl⟩ := yields_pure.1 h
    exact ⟨.refl r, by simp⟩
  | some value =>
    rw [hget] at h
    cases value with
    | null =>
      obtain ⟨rfl, rfl⟩ := yields_pure.1 h
      exact ⟨.refl r, by simp [Json.field?, Json.obj?]⟩
    | obj fields =>
      obtain ⟨hr, -, hall⟩ := propertyList_child hs (hraw.nodup_properties hget) h
        fun e _ => rfl
      exact ⟨hr, fun name j f hj => hall name j f hj⟩
    | bool | num | str | arr => exact absurd h not_yields_noteError_bind

theorem propertyNames_child (hs : Steady ctx) {names : Option Schema}
    (h : (propertyNames ctx raw).Yields r names r') (hj : raw.get? "propertyNames" = some j)
    (hf : normalize j = .ok f) : ∃ c, names = some c ∧ CompiledTo ctx r f c := by
  have hne : j ≠ .null := by
    rintro rfl
    cases hf
  unfold propertyNames at h
  rw [hj, Json.present_of_ne_null (by simpa using hne)] at h
  obtain ⟨o, u, ho, h⟩ := yields_bind.1 h
  obtain ⟨-, c, rfl, hc⟩ := hs.compile (yields_attach.1 ho)
  dsimp only at h
  split at h
  · obtain ⟨rfl, -⟩ := yields_pure.1 h
    exact ⟨c, rfl, hc f hf⟩
  · exact absurd h not_yields_noteError_bind

theorem object_child (hs : Steady ctx) (hraw : Sorted raw) {s : Schema}
    (h : (object ctx raw).Yields r (some s) r') :
    (∀ name j f, raw.part? (.property name) = some j → normalize j = .ok f →
      ∃ c, s.child? (.property name) = some c ∧
        CompiledTo ctx r (asProperty ((listedNames raw).contains name) f) c) ∧
    ∀ j f, raw.get? "propertyNames" = some j → normalize j = .ok f →
      ∃ c, s.child? .names = some c ∧ CompiledTo ctx r f c := by
  simp only [object, yields_bind, yields_lift] at h
  obtain ⟨required, _, ⟨-, rfl⟩, silent, _, ⟨-, rfl⟩, default, _, ⟨-, rfl⟩, listed, _, ⟨hl, rfl⟩,
    table, u₁, h₁, names, u₂, h₂, dependencies, _, ⟨-, rfl⟩, allow, _, ⟨-, rfl⟩, h⟩ := h
  obtain ⟨-, rfl⟩ := yields_coerced.1 hl
  obtain ⟨hu₁, hproperties⟩ := properties_child hs hraw h₁
  obtain ⟨heq, -⟩ := yields_pure.1 h
  obtain rfl := Option.some.inj heq
  refine ⟨fun name j f hj hf => ?_, fun j f hj hf => ?_⟩
  · obtain ⟨c, hlookup, hto⟩ := hproperties name j f hj hf
    refine ⟨c, ?_, hto⟩
    rw [← hlookup, PropertyTable.lookup?]
    simp only [Schema.child?, ObjectSchema.property?, getD_nonEmpty]
  · obtain ⟨c, hc, hto⟩ := propertyNames_child hs h₂ hj hf
    exact ⟨c, hc, hto.alike hu₁⟩

/-! ## From place to place -/

theorem child?_eq_some {place : Place} (h : raw.child? place = some f) :
    Compiler.typeName? raw = some place.type ∧ ∃ part f', raw.part? place = some part ∧
      normalize part = .ok f' ∧ f = asProperty (raw.lists place) f' := by
  unfold RawSchema.child? at h
  split at h
  · next htype =>
    obtain ⟨part, hpart, h⟩ := Option.bind_eq_some_iff.1 h
    obtain ⟨f', hf', rfl⟩ := Option.map_eq_some_iff.1 h
    refine ⟨htype, part, f', hpart, ?_, rfl⟩
    cases hn : normalize part with
    | error d => simp [hn, Except.toOption] at hf'
    | ok f'' => simpa [hn, Except.toOption] using hf'
  · cases h

theorem mem_parts_of_part? {place : Place} {part : Json}
    (htype : Compiler.typeName? raw = some place.type) (h : raw.part? place = some part) :
    part ∈ raw.parts := by
  rw [RawSchema.parts, htype]
  cases place with
  | items => exact Option.mem_toList.2 h
  | member group i =>
    simp only [RawSchema.part?] at h
    split at h
    · next hgroup =>
      have hmem := List.mem_of_getElem? h
      simp only [List.mem_cons, List.not_mem_nil, or_false] at hgroup
      rcases hgroup with rfl | rfl | rfl <;> simp [Place.type, RawSchema.partsOf, hmem]
    · cases h
  | property name =>
    obtain ⟨value, hvalue, h⟩ := Option.bind_eq_some_iff.1 h
    obtain ⟨fields, hfields, h⟩ := Option.bind_eq_some_iff.1 h
    cases value with
    | obj fields' =>
      obtain rfl := Option.some.inj hfields
      have hmem : part ∈ raw.named "properties" := by
        simpa [RawSchema.named, hvalue] using ⟨name, Dict.mem_of_get? h⟩
      exact List.mem_append_left _ hmem
    | null | bool | num | str | arr => cases hfields
  | names =>
    have hmem : part ∈ raw.single "propertyNames" := Option.mem_toList.2 h
    exact List.mem_append_right _ hmem

theorem Sorted.child? (h : Sorted raw) {place : Place} (hf : raw.child? place = some f) :
    Sorted f := by
  obtain ⟨htype, part, f', hpart, hf', rfl⟩ := child?_eq_some hf
  have hmem := RawSchema.mem_children.2 ⟨part, mem_parts_of_part? htype hpart, hf'⟩
  exact (h.child hmem).asProperty _

/-- One step: the schema at a place was compiled from the raw schema at that place. -/
theorem child_of_ends {options : CompilerOptions} {n : Nat} {s : Schema} {place : Place}
    (hraw : Sorted raw)
    (h : ((Compiler.builtin options).compileWithin (n + 1) raw).Ends r (some s) r')
    (hf : raw.child? place = some f) :
    ∃ c, s.child? place = some c ∧ CompiledTo ((Compiler.builtin options).context n) r f c := by
  obtain ⟨htype, part, f', hpart, hf', rfl⟩ := child?_eq_some hf
  have hs : Steady ((Compiler.builtin options).context n) := steady_context options n
  rw [Compiler.compileWithin_succ, Compiler.compileIn, htype] at h
  cases place with
  | items => exact array_child hs (Run.ends_ofStep.1 h) hpart hf'
  | member group i =>
    simp only [RawSchema.part?] at hpart
    split at hpart
    · next hgroup => exact combine_child hs (Run.ends_ofStep.1 h) hgroup hpart hf'
    · cases hpart
  | property name => exact (object_child hs hraw (Run.ends_ofStep.1 h)).1 name part f' hpart hf'
  | names => exact (object_child hs hraw (Run.ends_ofStep.1 h)).2 part f' hpart hf'

/-- **Places correspond:** what is compiled at some places gave the schema at the same places, with
a depth that is enough if it was so for the whole. -/
theorem at_of_ends {options : CompilerOptions} {places : List Place} {n d most k : Nat} {s : Schema}
    (hraw : Sorted raw) (hfits : Fits d raw) (hn : enough k most d ≤ n)
    (h : ((Compiler.builtin options).compileWithin n raw).Ends r (some s) r')
    (hat : raw.at? places = some f) :
    ∃ c m e, s.at? places = some c ∧ e ≤ d ∧ Fits e f ∧ enough k most e ≤ m ∧
      CompiledTo ((Compiler.builtin options).context m) r f c := by
  induction places generalizing raw r r' s n d with
  | nil =>
    obtain rfl := Option.some.inj hat
    exact ⟨s, n, d, rfl, Nat.le_refl d, hfits, hn, r, r', .refl r, h⟩
  | cons place rest ih =>
    obtain ⟨child, hchild, hat⟩ := Option.bind_eq_some_iff.1 hat
    obtain ⟨htype, part, f', hpart, hf', heq⟩ := child?_eq_some hchild
    have hmem : f' ∈ raw.children :=
      RawSchema.mem_children.2 ⟨part, mem_parts_of_part? htype hpart, hf'⟩
    obtain ⟨lower, rfl, hlower⟩ := hfits.child hmem
    rw [enough_child] at hn
    obtain ⟨n, rfl⟩ : ∃ left, n = left + 1 := Nat.exists_eq_add_one.2 (by omega)
    obtain ⟨c, hc, u, u', hu, hends⟩ := child_of_ends hraw h hchild
    have hfits' : Fits lower child := heq ▸ hlower _
    obtain ⟨c', m, e, hat', he, hfitse, hm, hto⟩ :=
      ih (hraw.child? hchild) hfits' (by omega) hends hat
    refine ⟨c', m, e, ?_, by omega, hfitse, hm, hto.alike hu⟩
    rw [Schema.at?, hc, Option.bind_some, hat']

end Compile

end DataSchema
