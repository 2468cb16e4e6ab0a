import DataSchema.Proofs.Compile.Nests
import DataSchema.Proofs.Compile.Overriding

/-!
# Raw schemas that are annotated

Some fields of a raw schema say nothing of what it compiles to: its id and its definitions are read
for whole schemas and definitions, and the type of its name for properties. Raw schemas that differ
in such annotations only are `Akin`.

A reference hands all its fields on, annotations too. A definition in its place is akin again
(`Akin.merged`), but if the definition is being compiled then what the reference overrides is
compared with it, and an annotation that differs is rejected (`Refused`). That is all that
annotations do.

**Theorem (`agree_akin`).** Raw schemas that are akin compile to the same outcome, in registries
with definitions that are akin (`Companion`), if all references on the way resolve and none is
refused.

**Theorem (`agree_akin_references`).** In one registry it is enough that references alone lead to
none that is refused (`LeadsToRefused`).
-/

namespace DataSchema

namespace Compile

open Step

variable {options : CompilerOptions} {ctx ctx' : Context}
  {raw raw' f parent parent' child child' target target' : RawSchema} {r r' u : Registry}
  {path name field : String} {place : Place} {part : Json} {n : Nat}

/-! ## Akin raw schemas -/

/-- The fields that are read for whole schemas, definitions and properties only. -/
def annotations : List String := ["$id", "definitions", "nameType"]

/-- Raw schemas with the same fields, other than annotations. -/
def Akin (raw raw' : RawSchema) : Prop := ∀ field ∉ annotations, raw.get? field = raw'.get? field

theorem Akin.refl (raw : RawSchema) : Akin raw raw := fun _ _ => rfl

theorem akin_insert (h : field ∈ annotations) (raw : RawSchema) (value : Json) :
    Akin raw (raw.insert field value) := by
  intro other hother
  have hne : field ≠ other := fun heq => hother (heq ▸ h)
  rw [Dict.get?_insert, if_neg hne]

theorem akin_modify (h : field ∈ annotations) (raw : RawSchema) (change : Json → Json) :
    Akin raw (raw.modify field change) := by
  intro other hother
  have hne : field ≠ other := fun heq => hother (heq ▸ h)
  rw [Dict.get?_modify, if_neg hne]

theorem Akin.plain (h : Akin raw raw') : Plain raw raw' := by
  intro field hfield
  refine h field fun hmem => hfield ?_
  simp only [annotations, List.mem_cons, List.not_mem_nil, or_false] at hmem
  rcases hmem with rfl | rfl | rfl <;> decide

theorem Akin.isReference (h : Akin raw raw') : IsReference raw ↔ IsReference raw' := by
  rw [IsReference, IsReference, h.plain.typeName?]

theorem Akin.inherit (hparent : Akin parent parent') (hchild : Akin child child')
    (hnodup : (Dict.keys child).Nodup) (hnodup' : (Dict.keys child').Nodup) :
    Akin (inherit parent child) (inherit parent' child') := by
  intro field hfield
  rw [get?_inherit hnodup, get?_inherit hnodup', hchild field hfield, hparent field hfield]

theorem Akin.overrides (h : Akin raw raw') : Akin (overrides raw) (overrides raw') := by
  intro field hfield
  rw [get?_overrides, get?_overrides, h field hfield]

/-- Definitions that are akin make raw schemas that are akin in place of references. -/
theorem Akin.merged (htarget : Akin target target') (h : Akin raw raw') (hraw : Sorted raw)
    (hraw' : Sorted raw') :
    Akin (DataSchema.inherit target (Compile.overrides raw))
      (DataSchema.inherit target' (Compile.overrides raw')) :=
  htarget.inherit h.overrides hraw.overrides.nodup hraw'.overrides.nodup

theorem Akin.asProperty (h : Akin raw raw') (hraw : Sorted raw) (hraw' : Sorted raw')
    (required : Bool) : Akin (asProperty required raw) (asProperty required raw') := by
  cases required with
  | false => exact h
  | true => exact (Akin.refl _).inherit h hraw.nodup hraw'.nodup

theorem Akin.part? (h : Akin raw raw') (place : Place) : raw.part? place = raw'.part? place := by
  cases place with
  | items => exact h _ (by decide)
  | names => exact h _ (by decide)
  | property name => rw [RawSchema.part?, RawSchema.part?, h "properties" (by decide)]
  | member group i =>
    simp only [RawSchema.part?]
    split
    · next hgroup =>
      have hget : raw.get? group = raw'.get? group := by
        refine h group ?_
        simp only [List.mem_cons, List.not_mem_nil, or_false] at hgroup
        rcases hgroup with rfl | rfl | rfl <;> decide
      rw [RawSchema.grouped, RawSchema.grouped, hget]
    · rfl

theorem Akin.lists (h : Akin raw raw') (place : Place) : raw.lists place = raw'.lists place := by
  cases place with
  | property name =>
    have hlisted : listedNames raw = listedNames raw' :=
      listedNames_congr (congrArg _ (h _ (by decide)))
    rw [RawSchema.lists, RawSchema.lists, hlisted]
  | items | member | names => rfl

/-- The same stands at the places of raw schemas that are akin. -/
theorem Akin.child? (h : Akin raw raw') (place : Place) : raw.child? place = raw'.child? place := by
  rw [RawSchema.child?, RawSchema.child?, h.plain.typeName?, h.part?, h.lists]

theorem child?_of_part? (htype : Compiler.typeName? raw = some place.type)
    (hpart : raw.part? place = some part) (hf : normalize part = .ok f) :
    raw.child? place = some (asProperty (raw.lists place) f) := by
  rw [RawSchema.child?, if_pos htype, hpart, Option.bind_some, hf]
  rfl

/-- **Raw schemas that are akin are similar** if what stands at their places corresponds to
itself. -/
theorem similar_akin {A : RawSchema → RawSchema → Prop} (h : Akin raw raw') (hraw : Sorted raw)
    (hA : ∀ place f, raw.child? place = some f → A f f) : Similar A raw raw' := by
  have hself : ∀ (place : Place) {part : Json}, Compiler.typeName? raw = some place.type →
      raw.part? place = some part → raw.lists place = false → Paired A part part := by
    intro place part htype hpart hlists
    refine paired_self fun f hf => hA place f ?_
    rw [child?_of_part? htype hpart hf, hlists]
    rfl
  constructor
  case plain => exact h.plain
  case items =>
    intro htype
    rw [← h "items" (by decide)]
    cases hj : raw.get? "items" with
    | none => exact .none
    | some part => exact .some (hself .items htype hj rfl)
  case group =>
    intro htype name hname
    have hget : raw.get? name = raw'.get? name := by
      refine h name ?_
      simp only [List.mem_cons, List.not_mem_nil, or_false] at hname
      rcases hname with rfl | rfl | rfl <;> decide
    rw [← hget]
    cases hj : raw.get? name with
    | none => exact .none
    | some j => cases j with
      | arr items =>
        refine .some (.arr (List.forall₂_same.2 fun part hpart => ?_))
        obtain ⟨i, hi⟩ := List.getElem?_of_mem hpart
        refine hself (.member name i) htype ?_ rfl
        simp only [RawSchema.part?, if_pos hname, RawSchema.grouped, hj]
        exact hi
      | null | bool | num | str | obj => exact .some (.same (by simp))
  case properties =>
    intro htype
    rw [← h "properties" (by decide)]
    cases hj : raw.get? "properties" with
    | none => exact .none
    | some j => cases j with
      | obj fields =>
        refine .some (.obj (List.forall₂_same.2 fun e he => ⟨rfl, fun required hrequired => ?_⟩))
        have hnodup := hraw.nodup_properties hj
        have hpart : raw.part? (.property e.1) = some e.2 := by
          rw [RawSchema.part?, hj]
          exact Dict.get?_of_mem hnodup he
        obtain rfl := hrequired hnodup
        exact paired_self fun f hf => ⟨hA (.property e.1) _ (child?_of_part? htype hpart hf), rfl⟩
      | null | bool | num | str | arr => exact .some (.same (by simp))
  case propertyNames =>
    intro htype
    rw [← h "propertyNames" (by decide)]
    cases hj : raw.get? "propertyNames" with
    | none => exact .none
    | some part => exact .some (hself .names htype hj rfl)

/-! ## Recursive references that are refused -/

/-- A recursive reference overrides what it cannot. -/
def Refused (r : Registry) (raw : RawSchema) : Prop :=
  ∃ path target, Refers r raw path target ∧ r.Busy path ∧ ¬ IsReference target ∧
    rejectedOverrides target (overrides raw) ≠ []

theorem Refused.alike (h : Refused r raw) (hu : u.Alike r) : Refused u raw := by
  obtain ⟨path, target, hrefers, hbusy, htype, hrejected⟩ := h
  exact ⟨path, target, (refers_congr hu.unmarked).2 hrefers, (hu.busy path).2 hbusy, htype,
    hrejected⟩

/-- **A reference that is refused is an error** that says so. -/
theorem rejects_of_refused (options : CompilerOptions) (n : Nat) (h : Refused r raw) :
    Rejects ((Compiler.builtin options).compileWithin (n + 1) raw r).1.errors := by
  obtain ⟨path, target, hrefers, hbusy, htype, hrejected⟩ := h
  rw [Compiler.compileWithin_succ, compileIn_eq options hrefers.1 rfl]
  obtain ⟨name, herrors⟩ := errors_reference_busy ((Compiler.builtin options).context n)
    hrefers hbusy
  show Rejects (reference _ raw r).errors
  rw [herrors]
  exact (rejects_recursive htype).2 hrejected

/-- Recursive references that are akin come to the same if neither is refused. -/
theorem recursive_akin {more more' : RawSchema} (htarget : Akin target target')
    (hmerged : Akin (inherit target more) (inherit target' more'))
    (h : ¬ IsReference target → rejectedOverrides target more = [])
    (h' : ¬ IsReference target' → rejectedOverrides target' more' = []) :
    recursive name target more = recursive name target' more' := by
  by_cases htype : IsReference target
  · have htype' := htarget.isReference.1 htype
    unfold recursive
    rw [(typeName?_eq_some.1 htype).1, (typeName?_eq_some.1 htype').1]
    rfl
  · have htype' : ¬ IsReference target' := fun hr => htype (htarget.isReference.2 hr)
    have hrequired : required (inherit target' more') = required (inherit target more) :=
      hmerged.plain.required
    have hdefault : rawDefault (inherit target' more') = rawDefault (inherit target more) := by
      rw [rawDefault, rawDefault, hmerged "default" (by decide)]
    unfold recursive
    rw [h htype, h' htype', htarget "type" (by decide)]
    simp only [hrequired, hdefault]

/-! ## One step -/

/-- The names of one registry resolve to the same in the other. What is registered is akin, and the
same is being compiled. -/
structure Companion (r r' : Registry) : Prop where
  resolved : ∀ name path, r.resolve name = some path → r'.resolve name = some path
  raws : ∀ path, Option.Rel Akin (r.raw? path) (r'.raw? path)
  busy : ∀ path, r.Busy path ↔ r'.Busy path

theorem Companion.refl (r : Registry) : Companion r r where
  resolved _ _ h := h
  raws path := by
    cases r.raw? path with
    | none => exact .none
    | some raw => exact .some (.refl raw)
  busy _ := Iff.rfl

theorem resolve_mark (r : Registry) (path : String) (state : DefinitionState) (name : String) :
    (r.mark path state).resolve name = r.resolve name :=
  Registry.resolve_congr (Registry.unmarked_mark r path state) name

theorem Companion.mark (h : Companion r r') (path : String) :
    Companion (r.mark path .compiling) (r'.mark path .compiling) where
  resolved name path' hpath := by
    rw [resolve_mark] at hpath ⊢
    exact h.resolved name path' hpath
  raws other := by
    rw [Registry.raw?_mark, Registry.raw?_mark]
    exact h.raws other
  busy other := by
    rw [Registry.busy_mark, Registry.busy_mark, Dict.isSome_of_rel (h.raws path)]
    split
    · exact Iff.rfl
    · exact h.busy other

theorem Companion.counterparts (h : Companion r r') (hpath : r.resolve name = some path)
    (hfound : r.raw? path = some target) :
    ∃ target', Counterparts r r' name path target target' ∧ Akin target target' := by
  obtain ⟨target', hfound', hakin⟩ := Dict.exists_of_rel (h.raws path) hfound
  exact ⟨target', ⟨hpath, hfound, h.resolved name path hpath, hfound', h.busy path⟩, hakin⟩

theorem Refers.of_resolved (htype : IsReference raw) (href : raw.get? "$ref" = some (.str name))
    (hname : name ≠ "") (hpath : r.resolve name = some path) (hfound : r.raw? path = some target) :
    Refers r raw path target := by
  refine ⟨htype, ?_⟩
  simp only [referent?, href, if_neg hname, hpath, hfound, Option.bind_some, Option.map_some]

/-- **One step.** Raw schemas that are akin compile to the same if what stands in them does, and the
definitions in their place. -/
theorem agree_akin_step (h : Companion r r') (hakin : Akin raw raw') (hraw : Sorted raw)
    (hraw' : Sorted raw')
    (hmissing : IsReference raw → ∀ name, raw.get? "$ref" = some (.str name) →
      target? r name = none → target? r' name = none)
    (hkept : ¬ Refused r raw) (hkept' : ¬ Refused r' raw')
    (hplaces : ∀ place f, raw.child? place = some f →
      NestedAgree .whole (Near r r') ctx ctx' f f)
    (hmerged : ∀ path target target', Refers r raw path target → Refers r' raw' path target' →
      Akin target target' → ¬ r.Busy path →
        NestedAgree .whole (Near (r.mark path .compiling) (r'.mark path .compiling)) ctx ctx'
          (inherit target (overrides raw)) (inherit target' (overrides raw'))) :
    Run.Agree .whole (Near r r') ((Compiler.builtin options).compileIn ctx raw)
      ((Compiler.builtin options).compileIn ctx' raw') := by
  refine agree_compileIn (similar_akin hakin hraw hplaces) fun htype => ?_
  have href : raw'.get? "$ref" = raw.get? "$ref" := (hakin "$ref" (by decide)).symm
  refine agree_reference_counterparts href fun name hname hne => ?_
  cases htarget : target? r name with
  | none => exact .inl ⟨rfl, hmissing htype name hname htarget⟩
  | some found =>
    obtain ⟨path, target, state⟩ := found
    obtain ⟨hpath, hfound, -⟩ := target?_eq_some htarget
    obtain ⟨target', hboth, htargets⟩ := h.counterparts hpath hfound
    have hrefers : Refers r raw path target := .of_resolved htype hname hne hpath hfound
    have hrefers' : Refers r' raw' path target' :=
      .of_resolved (hakin.isReference.1 htype) (href.trans hname) hne hboth.resolved' hboth.found'
    refine .inr ⟨path, target, target', hboth, fun hbusy => ?_, fun hfree =>
      hmerged path target target' hrefers hrefers' htargets hfree⟩
    refine recursive_akin htargets (htargets.merged hakin hraw hraw') ?_ ?_
    · exact fun hconcrete => by_contra fun hrejected =>
        hkept ⟨path, target, hrefers, hbusy, hconcrete, hrejected⟩
    · exact fun hconcrete => by_contra fun hrejected =>
        hkept' ⟨path, target', hrefers', hboth.busy.1 hbusy, hconcrete, hrejected⟩

/-! ## Along all that is compiled on the way -/

/-- If the raw schema is a reference, then it is to a definition. -/
def Resolves (r : Registry) (raw : RawSchema) : Prop :=
  IsReference raw → ∃ path target, Refers r raw path target

theorem Resolves.target?_ne_none (h : Resolves r raw) (htype : IsReference raw)
    (hname : raw.get? "$ref" = some (.str name)) : target? r name ≠ none := by
  obtain ⟨path, target, hrefers⟩ := h htype
  obtain ⟨name', hname', -, hpath, hfound⟩ := hrefers.resolved
  obtain rfl : name = name' := Json.str.inj (Option.some.inj (hname.symm.trans hname'))
  obtain ⟨_, -, htarget⟩ := exists_target? hpath hfound
  rw [htarget]
  exact nofun

/-- **Raw schemas that are akin compile to the same** in registries with definitions that are akin,
if all references on the way resolve and none is refused. -/
theorem agree_akin (options : CompilerOptions) (n : Nat) (h : Companion r r')
    (hakin : Akin raw raw') (hraw : Ordered r raw) (hraw' : Ordered r' raw')
    (hkept : ∀ r₁ node, Nests r raw r₁ node → Resolves r₁ node ∧ ¬ Refused r₁ node)
    (hkept' : ∀ r₁ node, Nests r' raw' r₁ node → ¬ Refused r₁ node) :
    Run.Agree .whole (Near r r') ((Compiler.builtin options).compileWithin n raw)
      ((Compiler.builtin options).compileWithin n raw') := by
  induction n generalizing r r' raw raw' with
  | zero => exact Run.agree_failed _
  | succ n ih =>
    obtain ⟨hresolves, hself⟩ := hkept r raw (.self r raw)
    rw [Compiler.compileWithin_succ, Compiler.compileWithin_succ]
    refine agree_akin_step h hakin hraw.sorted hraw'.sorted ?missing hself
      (hkept' r' raw' (.self r' raw')) ?places ?merged
    case missing =>
      exact fun htype name hname hnone => absurd hnone (hresolves.target?_ne_none htype hname)
    case places =>
      intro place f hf
      have hf' : raw'.child? place = some f := hakin.child? place ▸ hf
      exact ih h (.refl f) ⟨hraw.sorted.child? hf, hraw.sortedRaws⟩
        ⟨hraw'.sorted.child? hf', hraw'.sortedRaws⟩
        (fun r₁ node hnode => hkept r₁ node (.place place hf hnode))
        fun r₁ node hnode => hkept' r₁ node (.place place hf' hnode)
    case merged =>
      intro path target target' hrefers hrefers' htargets hfree
      have hfree' : ¬ r'.Busy path := fun hbusy => hfree ((h.busy path).2 hbusy)
      exact ih (h.mark path) (htargets.merged hakin hraw.sorted hraw'.sorted)
        (hraw.merged hrefers) (hraw'.merged hrefers')
        (fun r₁ node hnode => hkept r₁ node (.inlined path hrefers hfree hnode))
        fun r₁ node hnode => hkept' r₁ node (.inlined path hrefers' hfree' hnode)

/-! ## Along references alone -/

/-- References alone lead to one that is refused. -/
inductive LeadsToRefused : Registry → RawSchema → Prop
  | here {r : Registry} {raw : RawSchema} (h : Refused r raw) : LeadsToRefused r raw
  | inlined {r : Registry} {raw target : RawSchema} {path : String}
      (refers : Refers r raw path target) (free : ¬ r.Busy path)
      (h : LeadsToRefused (r.mark path .compiling) (inherit target (overrides raw))) :
      LeadsToRefused r raw

/-- In one registry only the references on the way are compiled differently at all. -/
theorem agree_akin_references (options : CompilerOptions) (n : Nat) (hakin : Akin raw raw')
    (hraw : Ordered r raw) (hraw' : Ordered r raw') (hkept : ¬ LeadsToRefused r raw)
    (hkept' : ¬ LeadsToRefused r raw') :
    Run.Agree .whole (Near r r) ((Compiler.builtin options).compileWithin n raw)
      ((Compiler.builtin options).compileWithin n raw') := by
  induction n generalizing r raw raw' with
  | zero => exact Run.agree_failed _
  | succ n ih =>
    rw [Compiler.compileWithin_succ, Compiler.compileWithin_succ]
    refine agree_akin_step (.refl r) hakin hraw.sorted hraw'.sorted (fun _ _ _ hnone => hnone)
      (fun h => hkept (.here h)) (fun h => hkept' (.here h)) ?places ?merged
    case places => exact fun _ f _ => agree_compileWithin options n (.refl r) f
    case merged =>
      intro path target target' hrefers hrefers' htargets hfree
      exact ih (htargets.merged hakin hraw.sorted hraw'.sorted) (hraw.merged hrefers)
        (hraw'.merged hrefers') (fun h => hkept (.inlined hrefers hfree h))
        fun h => hkept' (.inlined hrefers' hfree h)

/-- What leads to a reference that is refused does not compile, to no depth. -/
theorem shows_of_leadsToRefused (options : CompilerOptions) (n : Nat) (h : LeadsToRefused r raw) :
    Run.Shows (fun _ _ => False) (·.Alike r) ((Compiler.builtin options).compileWithin n raw) := by
  induction h generalizing n with
  | @here r raw h =>
    intro u hu hleaves
    cases n with
    | zero => exact Diagnostic.leaves_of.1 hleaves
    | succ n =>
      obtain ⟨leaf, hleaf, -⟩ := rejects_of_refused options n (h.alike hu)
      exact hleaves leaf hleaf
  | inlined refers free _ ih =>
    cases n with
    | zero => exact fun _ _ hleaves => Diagnostic.leaves_of.1 hleaves
    | succ n =>
      rw [Compiler.compileWithin_succ, compileIn_eq options refers.1 rfl]
      exact Run.shows_ofStep (shows_reference_free refers free (ih n))

theorem errors_of_leadsToRefused (options : CompilerOptions) (n : Nat) (h : LeadsToRefused r raw) :
    ((Compiler.builtin options).compileWithin n raw r).1.errors ≠ [] := by
  intro herrors
  refine shows_of_leadsToRefused options n h r (.refl r) ?_
  rw [herrors]
  exact Diagnostic.leaves_nil

/-- Both compile without error, and to the same schema, or neither does. -/
def SameSchema (o o' : Outcome Schema) : Prop :=
  (o.errors = [] ↔ o'.errors = []) ∧ o.value? = o'.value?

theorem sameSchema_of_errors {o o' : Outcome Schema} (h : o.errors ≠ []) (h' : o'.errors ≠ []) :
    SameSchema o o' := by
  have hnone : ∀ {o : Outcome Schema}, o.errors ≠ [] → o.value? = none := fun herrors =>
    Option.eq_none_iff_forall_ne_some.2 fun _ hsome => herrors (Outcome.value?_eq_some.1 hsome).1
  exact ⟨iff_of_false h h', (hnone h).trans (hnone h').symm⟩

/-- **Raw schemas that are akin compile to the same in one registry**, unless one of them compiles
and references alone lead from the other to one that is refused. -/
theorem sameSchema_iff (options : CompilerOptions) (n : Nat) (hakin : Akin raw raw')
    (hraw : Ordered r raw) (hraw' : Ordered r raw') :
    let compiled := fun raw => ((Compiler.builtin options).compileWithin n raw r).1
    SameSchema (compiled raw) (compiled raw') ↔
      ((compiled raw).errors = [] → ¬ LeadsToRefused r raw') ∧
        ((compiled raw').errors = [] → ¬ LeadsToRefused r raw) := by
  intro compiled
  have hrefused : ∀ {raw}, LeadsToRefused r raw → (compiled raw).errors ≠ [] := fun h =>
    errors_of_leadsToRefused options n h
  constructor
  · rintro ⟨herrors, -⟩
    exact ⟨fun hnil h => hrefused h (herrors.1 hnil), fun hnil h => hrefused h (herrors.2 hnil)⟩
  · rintro ⟨hkept', hkept⟩
    by_cases h : LeadsToRefused r raw
    · exact sameSchema_of_errors (hrefused h) fun hnil => hkept hnil h
    · by_cases h' : LeadsToRefused r raw'
      · exact sameSchema_of_errors (fun hnil => hkept' hnil h') (hrefused h')
      · have heq : compiled raw = compiled raw' :=
          (agree_akin_references options n hakin hraw hraw' h h' r r ⟨.refl r, .refl r⟩).1.eq
        exact ⟨heq ▸ Iff.rfl, congrArg _ heq⟩

end Compile

end DataSchema
