import DataSchema.Proofs.Compile.Place

/-!
# Which properties are listed as required

While the properties of an object are compiled one after the other, the list of required names is
brought in line with what they say. The list may name a property more than once; a property that is
not required leaves it once only.

**Theorem (`mem_required_iff`).** In a compiled object, a property is listed as required if it is
required, or if the raw schema lists it more than once. A name without a property is listed if the
raw schema lists it.

The invariant is on counts: a property changes how often its own name is listed (`relisted`) and
nothing else. The names of properties are distinct, so each is changed once.
-/

namespace DataSchema

namespace Compile

open Step

variable {ctx : Context} {raw : RawSchema} {r r' : Registry} {j : Json}

/-! ## One property -/

/-- How often a name is listed once its property is compiled, if it was listed so many times. -/
def relisted (times : Nat) (isRequired : Bool) : Nat :=
  if isRequired then max times 1 else times - 1

theorem relisted_pos {times : Nat} {isRequired : Bool} :
    0 < relisted times isRequired ↔ isRequired = true ∨ 2 ≤ times := by
  cases isRequired with
  | false =>
    simp only [relisted, Bool.false_eq_true, if_false, false_or]
    omega
  | true => simp [relisted]

theorem count_reconciled (required : List String) (name : String) (isRequired : Bool) :
    (reconciled required name isRequired).count name =
      relisted (required.count name) isRequired := by
  unfold reconciled relisted
  split
  · split
    · next hlisted =>
      have hpos := List.count_pos_iff.2 (List.contains_iff_mem.1 hlisted)
      omega
    · next hlisted =>
      have hzero := List.count_eq_zero.2 fun hmem => hlisted (List.contains_iff_mem.2 hmem)
      rw [List.count_append, hzero]
      simp
  · exact List.count_erase_self

theorem count_reconciled_of_ne {required : List String} {name other : String} {isRequired : Bool}
    (h : name ≠ other) :
    (reconciled required name isRequired).count other = required.count other := by
  unfold reconciled
  split
  · split
    · rfl
    · rw [List.count_append, List.count_singleton, if_neg (by simpa using h), Nat.add_zero]
  · exact List.count_erase_of_ne h.symm

theorem property_listed (hs : Steady ctx) {table table' : PropertyTable} {name : String}
    (h : (property ctx table name j).Yields r table' r') (hfresh : table.lookup? name = none) :
    (∃ c, table'.lookup? name = some c ∧
        table'.required = reconciled table.required name c.required) ∧
      ∀ other ≠ name, table'.lookup? other = table.lookup? other := by
  unfold property at h
  split at h
  · exact absurd h not_yields_noteError_bind
  · obtain ⟨o, u, ho, h⟩ := yields_bind.1 h
    obtain ⟨-, c, rfl⟩ := hs (yields_attach.1 ho)
    obtain ⟨-, hname, hothers⟩ := lookup?_enter h hfresh
    exact ⟨⟨c, hname, required_of_gives_enter (gives_of_yields h)⟩, hothers⟩

/-! ## All properties -/

/-- What a table of properties has become once some properties are compiled: each is entered, and
its name is listed anew; the others are as they were. -/
structure Relisted (fields : Dict Json) (table table' : PropertyTable) : Prop where
  entered : ∀ name part, fields.get? name = some part → ∃ c, table'.lookup? name = some c ∧
    table'.required.count name = relisted (table.required.count name) c.required
  kept : ∀ name, fields.get? name = none → table'.lookup? name = table.lookup? name ∧
    table'.required.count name = table.required.count name

theorem Relisted.refl (table : PropertyTable) : Relisted [] table table where
  entered _ _ h := nomatch h
  kept _ _ := ⟨rfl, rfl⟩

theorem relisted_propertyList (hs : Steady ctx) {table table' : PropertyTable}
    {fields : Dict Json} (hnodup : fields.keys.Nodup)
    (h : (propertyList ctx table fields).Yields r table' r')
    (hfresh : ∀ name part, fields.get? name = some part → table.lookup? name = none) :
    Relisted fields table table' := by
  induction fields generalizing table r with
  | nil =>
    obtain ⟨rfl, rfl⟩ := yields_pure.1 h
    exact .refl table
  | cons e rest ih =>
    obtain ⟨key, value⟩ := e
    obtain ⟨hkey, hrest⟩ := List.nodup_cons.1 hnodup
    have hkey : Dict.get? rest key = none := Dict.get?_eq_none_of_not_mem hkey
    obtain ⟨mid, u, hp, h⟩ := yields_bind.1 h
    obtain ⟨⟨c, hc, hrequired⟩, hothers⟩ :=
      property_listed hs hp (hfresh key value (by rw [Dict.get?_cons, if_pos rfl]))
    have hcounts : ∀ other ≠ key, mid.required.count other = table.required.count other := by
      intro other hother
      rw [hrequired, count_reconciled_of_ne hother.symm]
    have hne : ∀ name part, Dict.get? rest name = some part → key ≠ name := by
      rintro name part hname rfl
      rw [hkey] at hname
      cases hname
    obtain ⟨hentered, hkept⟩ := ih hrest h fun name part hname => by
      have hkeyname := hne name part hname
      rw [hothers _ hkeyname.symm]
      exact hfresh name part (by rw [Dict.get?_cons, if_neg hkeyname, hname])
    constructor
    case entered =>
      intro name part hname
      rw [Dict.get?_cons] at hname
      split at hname
      · next heq =>
        subst heq
        obtain ⟨hlookup, hcount⟩ := hkept key hkey
        exact ⟨c, hlookup.trans hc, by rw [hcount, hrequired, count_reconciled]⟩
      · next hother =>
        obtain ⟨d, hlookup, hcount⟩ := hentered name part hname
        exact ⟨d, hlookup, by rw [hcount, hcounts name (Ne.symm hother)]⟩
    case kept =>
      intro name hname
      rw [Dict.get?_cons] at hname
      split at hname
      · cases hname
      · next hother =>
        obtain ⟨hlookup, hcount⟩ := hkept name hname
        exact ⟨hlookup.trans (hothers name (Ne.symm hother)),
          hcount.trans (hcounts name (Ne.symm hother))⟩

/-- A table of an object that is compiled: what it has for the properties of the raw schema. -/
theorem relisted_properties (hs : Steady ctx) (hraw : Sorted raw) {listed : List String}
    {table : PropertyTable} (h : (properties ctx raw listed).Yields r table r') :
    ∃ fields, (∀ name, raw.part? (.property name) = Dict.get? fields name) ∧
      Relisted fields ⟨listed, [], []⟩ table := by
  unfold properties at h
  simp only [RawSchema.part?]
  cases hget : raw.get? "properties" with
  | none =>
    rw [hget] at h
    obtain ⟨rfl, -⟩ := yields_pure.1 h
    exact ⟨[], fun _ => rfl, .refl _⟩
  | some value =>
    rw [hget] at h
    cases value with
    | null =>
      obtain ⟨rfl, -⟩ := yields_pure.1 h
      exact ⟨[], fun _ => rfl, .refl _⟩
    | obj fields =>
      exact ⟨fields, fun _ => rfl,
        relisted_propertyList hs (hraw.nodup_properties hget) h fun _ _ _ => rfl⟩
    | bool | num | str | arr => exact absurd h not_yields_noteError_bind

theorem relisted_object (hs : Steady ctx) (hraw : Sorted raw) {s : Schema}
    (h : (object ctx raw).Yields r (some s) r') :
    ∃ fields table o, (∀ name, raw.part? (.property name) = Dict.get? fields name) ∧
      Relisted fields ⟨listedNames raw, [], []⟩ table ∧ s.kind = .object o ∧
        o.requiredProperties = table.required ∧ ∀ name, o.property? name = table.lookup? name := by
  simp only [object, yields_bind, yields_lift] at h
  obtain ⟨required, _, ⟨-, rfl⟩, silent, _, ⟨-, rfl⟩, default, _, ⟨-, rfl⟩, listed, _, ⟨hl, rfl⟩,
    table, u₁, h₁, names, u₂, h₂, dependencies, _, ⟨-, rfl⟩, allow, _, ⟨-, rfl⟩, h⟩ := h
  obtain ⟨-, rfl⟩ := yields_coerced.1 hl
  obtain ⟨fields, hfields, hrelisted⟩ := relisted_properties hs hraw h₁
  obtain ⟨heq, -⟩ := yields_pure.1 h
  obtain rfl := Option.some.inj heq
  refine ⟨fields, table, _, hfields, hrelisted, rfl, rfl, fun name => ?_⟩
  simp only [ObjectSchema.property?, PropertyTable.lookup?, getD_nonEmpty]

end Compile

namespace Compiler

open Compile

/-- **The list of required properties.** A property of a compiled object is listed as required if it
is required, or if the raw schema lists it more than once. Any other name is listed if the raw
schema lists it. -/
theorem mem_required_iff (options : CompilerOptions) {n : Nat} {raw : RawSchema} {r : Registry}
    {s : Schema} (hraw : Sorted raw) (htype : typeName? raw = some "object")
    (h : ((builtin options).compileWithin n raw r).1.value? = some s) :
    ∃ o, s.kind = .object o ∧
      (∀ name part, raw.part? (.property name) = some part →
        ∃ c, s.child? (.property name) = some c ∧
          (name ∈ o.requiredProperties ↔
            c.required = true ∨ 2 ≤ (listedNames raw).count name)) ∧
      ∀ name, raw.part? (.property name) = none →
        (name ∈ o.requiredProperties ↔ name ∈ listedNames raw) := by
  have hends := Run.ends_of_value? h
  cases n with
  | zero => exact absurd hends Run.not_ends_failed
  | succ n =>
    rw [compileWithin_succ, compileIn, htype] at hends
    obtain ⟨fields, table, o, hfields, hrelisted, hkind, hrequired, hproperty⟩ :=
      relisted_object (steady_context options n) hraw (Run.ends_ofStep.1 hends)
    refine ⟨o, hkind, fun name part hpart => ?_, fun name hpart => ?_⟩
    · obtain ⟨c, hc, hcount⟩ := hrelisted.entered name part (hfields name ▸ hpart)
      have hchild : s.child? (.property name) = o.property? name := by
        simp only [Schema.child?, hkind]
      refine ⟨c, by rw [hchild, hproperty, hc], ?_⟩
      rw [hrequired, ← List.count_pos_iff, hcount, relisted_pos]
    · obtain ⟨-, hcount⟩ := hrelisted.kept name (hfields name ▸ hpart)
      rw [hrequired, ← List.count_pos_iff, hcount, List.count_pos_iff]

/-- An object that lists some names, with a property that says that it is not required. -/
def listingFields (listed : List String) : RawSchema :=
  [("properties", .obj [("a", .obj [("required", .bool false), ("type", .str "string")])]),
    ("requiredProperties", .arr (listed.map .str)), ("type", .str "object")]

/-- What `listingFields` compiles to, with the names that stay listed. -/
def listing (listed : List String) : Schema :=
  .ofKind (.object
    { properties := some [("a", .ofKind (.string ⟨none, none, none, none, none, none⟩))]
      regexNameProperties := none
      propertyNames := none
      dependencies := none
      requiredProperties := listed
      allowAdditionalProperties := false
      silentIgnore := false })

set_option maxRecDepth 10000 in
theorem mem_required_iff_listing :
    ((builtin {}).compileWithin 2 (listingFields ["b", "a"]) .empty).1.value? =
        some (listing ["b"]) ∧
      ∃ o, (listing ["b"]).kind = .object o ∧
        (∀ name part, (listingFields ["b", "a"]).part? (.property name) = some part →
          ∃ c, (listing ["b"]).child? (.property name) = some c ∧
            (name ∈ o.requiredProperties ↔
              c.required = true ∨ 2 ≤ (listedNames (listingFields ["b", "a"])).count name)) ∧
        ∀ name, (listingFields ["b", "a"]).part? (.property name) = none →
          (name ∈ o.requiredProperties ↔ name ∈ listedNames (listingFields ["b", "a"])) := by
  have hcompiled : ((builtin {}).compileWithin 2 (listingFields ["b", "a"]) .empty).1.value? =
      some (listing ["b"]) := rfl
  have hsorted : (Json.obj (listingFields ["b", "a"])).SortedKeys := by decide
  exact ⟨hcompiled, mem_required_iff {} (.normalize hsorted rfl) rfl hcompiled⟩

set_option maxRecDepth 10000 in
/-- A property that is listed twice leaves the list once, so it stays listed. -/
theorem listed_not_required :
    ∃ o c, ((builtin {}).compile (.obj (listingFields ["a", "a"]))).value? =
        some ⟨none, [], listing ["a"]⟩ ∧
      (listing ["a"]).kind = .object o ∧ (listing ["a"]).child? (.property "a") = some c ∧
        "a" ∈ o.requiredProperties ∧ c.required = false :=
  ⟨_, _, rfl, rfl, rfl, List.mem_cons_self, rfl⟩

end Compiler

end DataSchema
