import DataSchema.Proofs.Compile.Alike
import DataSchema.Proofs.Compile.Top
import Mathlib.Logic.Relation

/-!
# Expanding references

`Compiler.expand` replaces each reference in a raw schema, and in its definitions, by the
definition that it refers to, merged with what it overrides, and goes on in what it got. It is a
rewriting of raw schemas and compiles nothing.

`Library` and `Ready` say of the definitions and of a raw schema when that makes sense: each
reference is to a definition, what it overrides has no references in it, and no definition leads
back to itself. These conditions are on raw schemas as they are written, and hold of what comes up
during expansion too (`Ready.child`, `Ready.merged`), since the references in a merged definition
are those of the definition (`exists_within_target`).

`Open` says that no definition that can come up is being compiled. A path that is marked cannot come
up again, since it would lead back to itself (`Open.merged`).
-/

namespace DataSchema

/-! ## Expansion -/

namespace RawSchema

/-- The raw schema apart from its id. -/
def withoutId (raw : RawSchema) : RawSchema := raw.filter fun field => field.1 ≠ "$id"

end RawSchema

namespace Compile

/-- What a reference refers to: the path of a definition, and its raw schema. -/
def referent? (r : Registry) (raw : RawSchema) : Option (String × RawSchema) :=
  match raw.get? "$ref" with
  | some (.str name) =>
    if name = "" then none
    else (r.resolve name).bind fun path => (r.raw? path).map fun target => (path, target)
  | _ => none

/-- Replaces references by their definitions, with a bound on the depth. -/
def expandWithin (r : Registry) : Nat → RawSchema → RawSchema
  | 0, raw => raw
  | depth + 1, raw =>
    if Compiler.typeName? raw = some "ref" then
      match referent? r raw with
      | some (_, target) => expandWithin r depth (inherit target.withoutId (overrides raw))
      | none => raw
    else raw.mapChildren (expandWithin r depth)

end Compile

/-- Replaces references by the definitions of a whole schema. -/
def Compiler.expandIn (c : Compiler) (whole : Json) : RawSchema → RawSchema :=
  Compile.expandWithin (c.registry whole) (Compiler.compileDepth whole)

/-- Replaces the references of a whole schema, in its body and in its definitions. -/
def Compiler.expand (c : Compiler) (raw : Json) : Json :=
  match raw with
  | .obj fields => .obj (Dict.modify (c.expandIn raw fields) "definitions"
      (RawSchema.mapNamed (c.expandIn raw)))
  | other => other

namespace Compile

variable {r r₀ : Registry} {raw f target : RawSchema} {path : String} {own : Option String}

/-! ## When references can be expanded -/

/-- The raw schema is a reference to the definition at a path. -/
def Refers (r : Registry) (raw : RawSchema) (path : String) (target : RawSchema) : Prop :=
  Compiler.typeName? raw = some "ref" ∧ referent? r raw = some (path, target)

/-- No reference stands in the raw schema. -/
def RefFree (raw : RawSchema) : Prop :=
  ∀ node : RawSchema, node.Within raw → Compiler.typeName? node ≠ some "ref"

/-- The reference is to a definition, and nothing that it overrides has references in it. -/
structure Replaceable (r : Registry) (own : Option String) (node : RawSchema) : Prop where
  refers : ∃ path target, Refers r node path target ∧ own ≠ some path
  overridden : ∀ type, ∀ part ∈ (overrides node).partsOf type, ∀ c, normalize part = .ok c →
    RefFree c

/-- Some reference in the raw schema is to this definition. -/
def Mentions (r : Registry) (raw : RawSchema) (path : String) : Prop :=
  ∃ node target, RawSchema.Within node raw ∧ Refers r node path target

/-- Some reference in a definition is to another. -/
def Leads (r : Registry) (path path' : String) : Prop :=
  ∃ raw, r.raw? path = some raw ∧ Mentions r raw path'

/-- The names of the properties that are references. -/
def refProperties (raw : RawSchema) : List String :=
  match raw.get? "properties" with
  | some (.obj fields) => Dict.keys
      (fields.filter fun e => (normalize e.2).toOption.bind Compiler.typeName? = some "ref")
  | _ => []

/-- No reference is a property that its object lists as required. -/
def Unlisted (raw : RawSchema) : Prop :=
  Compiler.typeName? raw = some "object" → ∀ name ∈ refProperties raw, name ∉ listedNames raw

instance (raw : RawSchema) : Decidable (Unlisted raw) :=
  inferInstanceAs (Decidable (Compiler.typeName? raw = some "object" →
    ∀ name ∈ refProperties raw, name ∉ listedNames raw))

/-- What comes up when references are replaced: the raw schemas in one, and for a reference the
definition merged with what is overridden. -/
inductive Reached (r : Registry) : RawSchema → RawSchema → Prop
  | self (raw : RawSchema) : Reached r raw raw
  | child {node c raw : RawSchema} (h : c ∈ raw.children) (hc : Reached r node c) :
      Reached r node raw
  | merged {node raw target : RawSchema} {path : String} (h : Refers r raw path target)
      (hm : Reached r node (inherit target (overrides raw))) : Reached r node raw

theorem Refers.congr {node : RawSchema} (htype : Compiler.typeName? node = some "ref")
    (h : Refers r raw path target) (href : node.get? "$ref" = raw.get? "$ref") :
    Refers r node path target := by
  refine ⟨htype, ?_⟩
  rw [referent?, href]
  exact h.2

theorem Refers.resolved (h : Refers r raw path target) :
    ∃ name, raw.get? "$ref" = some (.str name) ∧ name ≠ "" ∧ r.resolve name = some path ∧
      r.raw? path = some target := by
  obtain ⟨-, h⟩ := h
  unfold referent? at h
  split at h
  · next name hname =>
    split at h
    · cases h
    · next hne =>
      obtain ⟨path', hpath, h⟩ := Option.bind_eq_some_iff.1 h
      obtain ⟨target', htarget, heq⟩ := Option.map_eq_some_iff.1 h
      obtain ⟨rfl, rfl⟩ := Prod.mk.inj heq
      exact ⟨name, hname, hne, hpath, htarget⟩
  · cases h

/-- A reference to a definition stays if that is being compiled, and else the definition is compiled
in its place. -/
theorem Refers.reference_apply (h : Refers r raw path target) (ctx : Context) {s : Registry}
    (hs : s.unmarked = r.unmarked) : ∃ name state, s.state? path = some state ∧
      reference ctx raw s = (if state = .compiling then
          monadLift (recursive name target (overrides raw))
        else Step.attach "$ref" (inlined ctx path state (inherit target (overrides raw))) none :
          Compiling (Option Schema)) s := by
  obtain ⟨name, href, hname, hpath, hfound⟩ := h.resolved
  obtain ⟨state, hstate, htarget⟩ := exists_target? (r := s)
    ((Registry.resolve_congr hs name).trans hpath) ((Registry.raw?_congr hs path).trans hfound)
  refine ⟨name, state, hstate, ?_⟩
  unfold reference
  rw [href]
  show (if name = "" then _ else _ : Compiling (Option Schema)) s = _
  rw [if_neg hname, Step.get_bind_apply, htarget]

theorem Replaceable.ne_own {node : RawSchema} (h : Replaceable r own node)
    (hrefers : Refers r node path target) : own ≠ some path := by
  obtain ⟨path', target', hrefers', hown⟩ := h.refers
  have heq := hrefers'.2
  rw [hrefers.2] at heq
  obtain ⟨rfl, -⟩ := Prod.mk.inj (Option.some.inj heq)
  exact hown

theorem children_ref (h : Compiler.typeName? raw = some "ref") : raw.children = [] := by
  simp [RawSchema.children, RawSchema.parts, h, RawSchema.partsOf]

theorem partsOf_overrides (raw : RawSchema) (type : String) :
    (overrides raw).partsOf type = raw.partsOf type := by
  have hget : ∀ field ∈ RawSchema.holders, (overrides raw).get? field = raw.get? field := by
    intro field hfield
    rw [get?_overrides, if_pos]
    constructor <;> (rintro rfl; exact absurd hfield (by decide))
  unfold RawSchema.partsOf
  split
  · simp (disch := decide) only [RawSchema.single, hget]
  · simp (disch := decide) only [RawSchema.single, RawSchema.named, hget]
  · simp (disch := decide) only [RawSchema.grouped, hget]
  · rfl

/-- **Where the references of a merged definition come from:** each is one of the definition, and
overrides nothing that was not overridden before. -/
theorem exists_within_target (hraw : Sorted raw)
    (hfree : ∀ type, ∀ part ∈ (overrides raw).partsOf type, ∀ c, normalize part = .ok c → RefFree c)
    {node : RawSchema} (hnode : node.Within (inherit target (overrides raw)))
    (htype : Compiler.typeName? node = some "ref") :
    ∃ origin : RawSchema, origin.Within target ∧ Compiler.typeName? origin = some "ref" ∧
      node.get? "$ref" = origin.get? "$ref" ∧
      ∀ type, ∀ part ∈ (overrides node).partsOf type,
        part ∈ (overrides origin).partsOf type ∨ part ∈ (overrides raw).partsOf type := by
  cases hnode with
  | self =>
    refine ⟨target, .self target, (typeName?_merged hraw target) ▸ htype, ?_,
      fun type part hpart => ?_⟩
    · rw [get?_inherit hraw.overrides.nodup, get?_overrides]
      rfl
    · rw [partsOf_overrides] at hpart ⊢
      exact (partsOf_inherit hraw.overrides.nodup target hpart).symm
  | child hc hnode =>
    rename_i c
    obtain ⟨part, hpart, hnormal⟩ := RawSchema.mem_children.1 hc
    rw [RawSchema.parts, typeName?_merged hraw] at hpart
    cases htarget : Compiler.typeName? target with
    | none =>
      rw [htarget] at hpart
      cases hpart
    | some type =>
      rw [htarget] at hpart
      rcases partsOf_inherit hraw.overrides.nodup target hpart with hpart | hpart
      · exact absurd htype (hfree type part hpart c hnormal node hnode)
      · have hmem : part ∈ target.parts := by rwa [RawSchema.parts, htarget]
        exact ⟨node, .child (RawSchema.mem_children.2 ⟨part, hmem, hnormal⟩) hnode, htype, rfl,
          fun _ _ => .inl⟩

/-! ## What holds of all that comes up -/

/-- What the definitions have to satisfy. -/
structure Library (r : Registry) (own : Option String) : Prop where
  sorted : ∀ path target, r.raw? path = some target → Sorted target
  replaceable : ∀ path target, r.raw? path = some target → ∀ node : RawSchema, node.Within target →
    Compiler.typeName? node = some "ref" → Replaceable r own node
  acyclic : ∀ path, ¬ Relation.TransGen (Leads r) path path
  nameType : ∀ path target, r.raw? path = some target → own ≠ some path →
    target.get? "nameType" = none

/-- No definition refers to the whole schema. -/
theorem Library.ne_own (hr : Library r own) (hfound : r.raw? path = some target) {path' : String}
    {target' : RawSchema} (h : Refers r target path' target') : own ≠ some path' :=
  (hr.replaceable path target hfound target (.self target) h.1).ne_own h

/-- What a raw schema has to satisfy that is compiled on its own or in place of a reference. -/
structure Ready (r : Registry) (own : Option String) (raw : RawSchema) : Prop where
  sorted : Sorted raw
  replaceable : ∀ node : RawSchema, node.Within raw → Compiler.typeName? node = some "ref" →
    Replaceable r own node
  unlisted : ∀ node, Reached r node raw → Unlisted node

theorem Ready.child (h : Ready r own raw) {c : RawSchema} (hc : c ∈ raw.children) :
    Ready r own c where
  sorted := h.sorted.child hc
  replaceable node hnode := h.replaceable node (.child hc hnode)
  unlisted node hnode := h.unlisted node (.child hc hnode)

theorem Ready.merged (hr : Library r own) (h : Ready r own raw)
    (hrefers : Refers r raw path target) : Ready r own (inherit target (overrides raw)) where
  sorted := by
    obtain ⟨_, -, -, -, hfound⟩ := hrefers.resolved
    exact (hr.sorted path target hfound).inherit h.sorted.overrides.values
  replaceable node hnode htype := by
    obtain ⟨_, -, -, -, hfound⟩ := hrefers.resolved
    have hraw := h.replaceable raw (.self raw) hrefers.1
    obtain ⟨origin, horigin, horiginType, href, hparts⟩ :=
      exists_within_target h.sorted hraw.overridden hnode htype
    have hreplaceable := hr.replaceable path target hfound origin horigin horiginType
    obtain ⟨path', target', hrefers', hown⟩ := hreplaceable.refers
    refine ⟨⟨path', target', hrefers'.congr htype href, hown⟩, fun type part hpart c hc => ?_⟩
    rcases hparts type part hpart with hpart | hpart
    · exact hreplaceable.overridden type part hpart c hc
    · exact hraw.overridden type part hpart c hc
  unlisted node hnode := h.unlisted node (.merged hrefers hnode)

theorem mem_refProperties {fields : List (String × Json)} {e : String × Json} {c : RawSchema}
    (hget : raw.get? "properties" = some (.obj fields)) (he : e ∈ fields)
    (hc : normalize e.2 = .ok c) (htype : Compiler.typeName? c = some "ref") :
    e.1 ∈ refProperties raw := by
  have href : (normalize e.2).toOption.bind Compiler.typeName? = some "ref" := by
    rw [hc]
    exact htype
  rw [refProperties, hget]
  exact List.mem_map_of_mem (List.mem_filter.2 ⟨he, by simpa using href⟩)

theorem refProperties_congr {raw' : RawSchema}
    (h : Json.present (raw.get? "properties") = Json.present (raw'.get? "properties")) :
    refProperties raw = refProperties raw' := by
  unfold refProperties
  rcases Json.eq_or_unset_of_present h with heq | ⟨hraw | hraw, hraw' | hraw'⟩
  · rw [heq]
  all_goals rw [hraw, hraw']

theorem Unlisted.asProperty (h : Unlisted f) (hf : Sorted f) :
    Unlisted (Compile.asProperty true f) := by
  intro htype name hname
  rw [listedNames_congr (get?_asProperty hf.nodup (by decide))]
  rw [refProperties_congr (get?_asProperty hf.nodup (by decide))] at hname
  exact h (typeName?_asProperty hf ▸ htype) name hname

/-- A raw schema that is not a reference may be required. -/
theorem Ready.asProperty (h : Ready r own f) (htype : Compiler.typeName? f ≠ some "ref") :
    Ready r own (Compile.asProperty true f) where
  sorted := h.sorted.asProperty true
  replaceable node hnode hnodeType := by
    have htrue := typeName?_asProperty h.sorted
    cases hnode with
    | self => exact absurd (htrue ▸ hnodeType) htype
    | child hc hnode =>
      rw [children_asProperty h.sorted] at hc
      exact h.replaceable node (.child hc hnode) hnodeType
  unlisted node hnode := by
    have htrue := typeName?_asProperty h.sorted
    cases hnode with
    | self => exact (h.unlisted f (.self f)).asProperty h.sorted
    | child hc hnode =>
      rw [children_asProperty h.sorted] at hc
      exact h.unlisted node (.child hc hnode)
    | merged hrefers => exact absurd (htrue ▸ hrefers.1) htype

/-! ## What is open -/

/-- No definition that comes up in a raw schema is being compiled. -/
def Open (r₀ r : Registry) (raw : RawSchema) : Prop :=
  ∀ path, Mentions r₀ raw path → ∀ path', Relation.ReflTransGen (Leads r₀) path path' →
    ¬ r.Busy path'

theorem Mentions.child {c : RawSchema} (hc : c ∈ raw.children) (h : Mentions r c path) :
    Mentions r raw path := by
  obtain ⟨node, target, hnode, hrefers⟩ := h
  exact ⟨node, target, .child hc hnode, hrefers⟩

theorem Open.child (h : Open r₀ r raw) {c : RawSchema} (hc : c ∈ raw.children) : Open r₀ r c :=
  fun path hpath => h path (hpath.child hc)

theorem Open.asProperty (h : Open r₀ r f) (hf : Sorted f)
    (htype : Compiler.typeName? f ≠ some "ref") : Open r₀ r (Compile.asProperty true f) := by
  intro path hpath
  obtain ⟨node, target, hnode, hrefers⟩ := hpath
  have htrue := typeName?_asProperty hf
  cases hnode with
  | self => exact absurd (htrue ▸ hrefers.1) htype
  | child hc hnode =>
    rw [children_asProperty hf] at hc
    exact h path ⟨node, target, .child hc hnode, hrefers⟩

/-- A definition that is marked does not come up in what comes up in itself, since it would lead back
to itself. -/
theorem free_of_marked {R : String → String → Prop} {path' : String}
    (hacyclic : ¬ Relation.TransGen R path path)
    (hfree : ∀ path', Relation.TransGen R path path' → ¬ r.Busy path')
    (hpath : Relation.TransGen R path path') : ¬ (r.mark path .compiling).Busy path' := by
  intro hbusy
  rw [Registry.busy_mark] at hbusy
  split at hbusy
  · next heq => exact hacyclic (heq ▸ hpath)
  · exact hfree path' hpath hbusy

theorem Open.of_marked (hr : Library r₀ own)
    (h : ∀ path', Relation.ReflTransGen (Leads r₀) path path' → ¬ r.Busy path')
    (hraw : ∀ path', Mentions r₀ raw path' → Leads r₀ path path') :
    Open r₀ (r.mark path .compiling) raw := by
  intro path' hmentions other hother
  exact free_of_marked (hr.acyclic path) (fun other hleads => h other hleads.to_reflTransGen)
    (.head' (hraw path' hmentions) hother)

theorem Open.merged (hr : Library r₀ own) (hraw : Ready r₀ own raw) (h : Open r₀ r raw)
    (hrefers : Refers r₀ raw path target) :
    Open r₀ (r.mark path .compiling) (inherit target (overrides raw)) := by
  refine .of_marked hr (h path ⟨raw, target, .self raw, hrefers⟩) fun path' hmentions => ?_
  obtain ⟨_, -, -, -, hfound⟩ := hrefers.resolved
  obtain ⟨node, target', hnode, hrefers'⟩ := hmentions
  obtain ⟨origin, horigin, htype, href, -⟩ := exists_within_target hraw.sorted
    (hraw.replaceable raw (.self raw) hrefers.1).overridden hnode hrefers'.1
  exact ⟨target, hfound, origin, target', horigin, hrefers'.congr htype href.symm⟩

/-! ## Whole schemas -/

theorem Library.ne_own_of_leads (hr : Library r own) {path' : String} (h : Leads r path path') :
    own ≠ some path' := by
  obtain ⟨raw, hfound, node, target, hnode, hrefers⟩ := h
  exact (hr.replaceable path raw hfound node hnode hrefers.1).ne_own hrefers

/-- No definition leads to the whole schema. -/
theorem Library.free_of_leads (hr : Library r₀ own) (hbusy : ∀ path, r.Busy path → own = some path)
    (hpath : own ≠ some path) {path' : String}
    (hleads : Relation.ReflTransGen (Leads r₀) path path') : ¬ r.Busy path' := by
  intro hcompiling
  have hown := hbusy path' hcompiling
  rcases hleads.cases_tail with heq | ⟨_, -, hlast⟩
  · exact hpath (heq ▸ hown)
  · exact hr.ne_own_of_leads hlast hown

theorem Open.alike (h : Open r₀ r raw) {r' : Registry} (hr : r'.Alike r) : Open r₀ r' raw :=
  fun path hmentions path' hleads hbusy => h path hmentions path' hleads ((hr.busy path').1 hbusy)

theorem Open.of_busy (hr : Library r₀ own) (hraw : Ready r₀ own raw)
    (hbusy : ∀ path, r.Busy path → own = some path) : Open r₀ r raw := by
  intro path hmentions path' hleads
  obtain ⟨node, target, hnode, hrefers⟩ := hmentions
  have hpath := (hraw.replaceable node hnode hrefers.1).ne_own hrefers
  exact hr.free_of_leads hbusy hpath hleads

theorem Open.definition (hr : Library r₀ own) (hfound : r₀.raw? path = some raw)
    (hpath : own ≠ some path) (hbusy : ∀ path, r.Busy path → own = some path) :
    Open r₀ (r.mark path .compiling) raw :=
  .of_marked hr (fun _ hleads => hr.free_of_leads hbusy hpath hleads) fun _ hmentions =>
    ⟨raw, hfound, hmentions⟩

end Compile

end DataSchema
