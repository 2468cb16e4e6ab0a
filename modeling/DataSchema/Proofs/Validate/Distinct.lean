import DataSchema.Proofs.Validate.Presence
import DataSchema.Proofs.Validate.Settled

/-!
# Arrays of distinct elements

An array schema may ask for distinct elements. They are compared as they are given; only then is
each of them validated, and what different elements are read as may be the same.

**Theorem (`unique_outputs`).** If data is accepted by such a schema, the elements that were given
are distinct, and the value has for each what validating it gives. So the elements of the value are
distinct exactly if no two that were given are read alike.

If every element is read as it is then the value has the given elements. Schemas are `Exact` if they
read all data so: texts without transforms, objects with additional properties only, and arrays of
such. Numbers are none, as they can be written as texts (`repeated_number`), and no schema with a
default is.
-/

namespace DataSchema

/-- All data that the schema accepts is its own value, and there is nothing to stand in for it. -/
structure Schema.Exact (s : Schema) : Prop where
  default : Json.present s.default = none
  kind : match s.kind with
    | .null | .array _ _ => True
    | .string c => c.transform.getD [] = []
    | .object o => o.properties.getD [] = [] ∧ o.regexNameProperties.getD [] = [] ∧
        o.propertyNames = none ∧ o.allowAdditionalProperties = true
    | _ => False

namespace Validate

variable {ctx : Context} {s items : Schema} {depth : Nat} {data o : Option Json}

/-! ## Distinct elements -/

/-- No two elements are the same. -/
def Distinct (values : List Json) : Prop := values.Pairwise fun x y => x.same y = false

theorem hasDuplicates_eq_false {values : List Json} :
    hasDuplicates values = false ↔ Distinct values := by
  induction values with
  | nil => exact iff_of_true rfl .nil
  | cons x rest ih =>
    rw [hasDuplicates, Bool.or_eq_false_iff, ih, List.any_eq_false]
    simp [Distinct]

instance (values : List Json) : Decidable (Distinct values) :=
  inferInstanceAs (Decidable (List.Pairwise _ _))

/-- What stands for an element in the value of an array. -/
def Context.element (ctx : Context) (items : Schema) (depth : Nat) (x : Json) : Json :=
  (ctx.nested items (some x) depth).1.value?.getD .null

theorem eq_map_of_forall₂ {values outs : List Json}
    (h : List.Forall₂ (fun x y => ∃ o, (ctx.nested items (some x)).Ends depth o depth ∧
      y = o.getD .null) values outs) : outs = values.map (ctx.element items depth) := by
  induction h with
  | nil => rfl
  | cons hfirst _ ih =>
    obtain ⟨o, hrun, rfl⟩ := hfirst
    rw [List.map_cons, ← ih, Context.element, Outcome.value?_of_errors_eq_nil hrun.1, hrun.2.1]

/-- Elements that are read as they are stay as they are. -/
theorem eq_of_forall₂ {values outs : List Json}
    (h : List.Forall₂ (fun x y => ∃ o, (ctx.nested items (some x)).Ends depth o depth ∧
      y = o.getD .null) values outs) (hsorted : (Json.arr values).SortedKeys)
    (hsame : ∀ x o, x.SortedKeys → (ctx.nested items (some x)).Ends depth o depth →
      o.getD .null = x) : outs = values := by
  cases hsorted with
  | arr hsorted =>
    induction h with
    | nil => rfl
    | @cons x _ _ _ hfirst _ ih =>
      obtain ⟨hx, hrest⟩ := List.forall_mem_cons.1 hsorted
      obtain ⟨o, hrun, rfl⟩ := hfirst
      rw [hsame x o hx hrun, ih hrest]

/-! ## Exact schemas -/

theorem typeName_ne_boolean (hs : s.Exact) : s.typeName ≠ "boolean" := by
  have hkind := hs.kind
  unfold Schema.typeName
  cases hk : s.kind <;> simp_all [SchemaKind.typeName]

theorem Given.eq_data {value : Json} (hs : s.Exact) (h : Given s data value) :
    data = some value := by
  rw [Given, hs.default, Option.or_none] at h
  exact Json.eq_some_of_present h

/-- An object with additional properties only is its own value. -/
theorem eq_of_entries {c : ObjectSchema} (hs : s.Exact) (hk : s.kind = .object c)
    {input output : Dict Json} (entries : Adds [] (Entry ctx depth c input) output)
    (hinput : Dict.Sorted input) (houtput : Dict.Sorted output) : output = input := by
  have hkind := hs.kind
  rw [hk] at hkind
  obtain ⟨hproperties, hpatterns, hnames, hallow⟩ := hkind
  have hfree : ∀ name, isDeclared c name = false := fun name => by
    rw [isDeclared, hproperties]
    rfl
  have hunmatched : ∀ name, patternProperty? c name = none := fun name => by
    rw [patternProperty?, hpatterns]
    rfl
  refine (entries.congr fun name value => ?_).eq_of_sorted hinput houtput
  constructor
  · rintro (⟨schema, hmem, -⟩ | ⟨-, given, hgiven, hvalue⟩)
    · rw [hproperties] at hmem
      cases hmem
    · cases hvalue with
      | matched found =>
        rw [hunmatched] at found
        cases found
      | additional => exact hgiven
  · intro hmem
    have hkeeps : KeepsAdditional ctx depth c name := ⟨hallow, by simp [hnames]⟩
    exact .inr ⟨hfree name, value, hmem, .additional (hunmatched name) hkeeps⟩

end Validate

namespace Validator

open Validate

variable {options : ValidatorOptions} {top : Option TopSchema} {n depth t : Nat}
  {s items : Schema} {data o : Option Json}

/-- What an exact schema accepts is its own value, and `null` stands for nothing. -/
theorem getD_of_ends_exact (hs : s.Everywhere Schema.Exact)
    (hdata : (data.getD .null).SortedKeys)
    (h : ((builtin options).validateWithin top n s data).Ends depth o t) :
    o.getD .null = data.getD .null := by
  induction n generalizing s data o t with
  | zero => exact absurd h Run.not_ends_failed
  | succ n ih =>
    have hkind := hs.root.kind
    cases accepted_of_ends h with
    | missing missing =>
      cases data with
      | none => rfl
      | some value =>
        by_cases hnull : some value = some Json.null
        · rw [hnull]
          rfl
        · have hdata := missing.data
          rw [Json.present_of_ne_null hnull] at hdata
          cases hdata
    | boolean type => exact absurd type (typeName_ne_boolean hs.root)
    | null _ given =>
      cases data with
      | none => rfl
      | some value => exact given.symm ▸ rfl
    | number kind | integer kind | combine kind | ref kind =>
      rw [kind] at hkind
      cases hkind
    | @string c text kind given =>
      rw [kind] at hkind
      rw [given.eq_data hs.root, StringSchema.normalText, hkind, List.foldl_nil]
    | @array items unique values outs kind given _ elements =>
      obtain rfl := given.eq_data hs.root
      have hitems := hs.child (by simp [Schema.children, kind] : items ∈ s.children)
      exact congrArg Json.arr (eq_of_forall₂ elements hdata fun x o hx hrun =>
        ih hitems (show ((some x).getD .null).SortedKeys from hx) hrun)
    | @object c input output kind given entries _ _ _ sorted =>
      obtain rfl := given.eq_data hs.root
      have hsorted : Dict.Sorted input := by
        cases hdata with
        | obj h => exact h
      exact congrArg Json.obj (eq_of_entries hs.root kind entries hsorted sorted)

/-- **Distinct elements.** The elements that were given for a unique array are distinct, and each
stands in the value as it is read. The elements of the value are distinct exactly if no two that
were given are read alike, and if elements are read exactly then they are what was given. -/
theorem unique_outputs (hk : s.kind = .array items true) {outs : List Json}
    (h : ((builtin options).validateWithin top (n + 1) s data depth).1.value? =
      some (.arr outs)) :
    ∃ values, Given s data (.arr values) ∧ Distinct values ∧
      (∀ x ∈ values, ((builtin options).validateWithin top n items (some x) depth).1.errors = []) ∧
      outs = values.map (((builtin options).context top n).element items depth) ∧
      (Distinct outs ↔ values.Pairwise fun x y =>
        (((builtin options).context top n).element items depth x).same
          (((builtin options).context top n).element items depth y) = false) ∧
      (items.Everywhere Schema.Exact → (Json.arr values).SortedKeys →
        outs = values ∧ Distinct outs) := by
  have haccepted := accepted_of_ends (Run.ends_of_value? h)
  generalize hout : some (Json.arr outs) = out at haccepted
  cases haccepted with
  | @array items' unique values outs' kind given distinct elements =>
    obtain ⟨rfl, rfl⟩ := SchemaKind.array.inj (hk.symm.trans kind)
    obtain rfl : outs = outs' := Json.arr.inj (Option.some.inj hout)
    have hmap := eq_map_of_forall₂ elements
    have hdistinct := hasDuplicates_eq_false.1 (distinct rfl)
    refine ⟨values, given, hdistinct, fun x hx => ?_, hmap, ?_, fun hexact hsorted => ?_⟩
    · obtain ⟨y, -, o, hrun, -⟩ := exists_mem_of_forall₂ elements hx
      exact hrun.1
    · rw [hmap]
      exact List.pairwise_map
    · have hsame : outs = values := eq_of_forall₂ elements hsorted fun x o hx hrun =>
        getD_of_ends_exact hexact (show ((some x).getD .null).SortedKeys from hx) hrun
      exact ⟨hsame, hsame ▸ hdistinct⟩
  | combine kind | ref kind =>
    rw [hk] at kind
    cases kind
  | missing | boolean | null | number | integer | string | object => cases hout

/-- Distinct elements of a kind. -/
def uniqueOf (items : SchemaKind) : Schema := .ofKind (.array (.ofKind items) true)

/-- Texts without constraints. -/
def anyText : StringSchema := ⟨none, none, none, none, none, none⟩

theorem everywhere_exact_anyText : (Schema.ofKind (.string anyText)).Everywhere Schema.Exact :=
  Schema.everywhere_iff.2 ⟨⟨rfl, rfl⟩, fun _ hc => absurd hc List.not_mem_nil⟩

theorem unique_outputs_texts :
    ((builtin {}).validateWithin none 2 (uniqueOf (.string anyText))
        (some (.arr [.str "a", .str " a"])) 0).1.value? = some (.arr [.str "a", .str " a"]) ∧
      ∃ values, Given (uniqueOf (.string anyText)) (some (.arr [.str "a", .str " a"]))
          (.arr values) ∧ Distinct values ∧
        ((Json.arr values).SortedKeys →
          [.str "a", .str " a"] = values ∧ Distinct [.str "a", .str " a"]) := by
  have hvalue : ((builtin {}).validateWithin none 2 (uniqueOf (.string anyText))
      (some (.arr [.str "a", .str " a"])) 0).1.value? = some (.arr [.str "a", .str " a"]) := rfl
  obtain ⟨values, hgiven, hdistinct, -, -, -, hexact⟩ := unique_outputs rfl hvalue
  exact ⟨hvalue, values, hgiven, hdistinct, hexact everywhere_exact_anyText⟩

/-- A number and a text that is read as the same number are distinct, but what they are read as is
not, and would be rejected itself. -/
theorem repeated_number :
    ∃ outs, ((builtin {}).validate
        ⟨none, [], uniqueOf (.integer ⟨none, none, none, none, none⟩)⟩
        (some (.arr [.str "1", .ofInt64 1]))).value? = some (.arr outs) ∧
      ¬ Distinct outs ∧
      ((builtin {}).validate ⟨none, [], uniqueOf (.integer ⟨none, none, none, none, none⟩)⟩
        (some (.arr outs))).errors = [notUnique outs] :=
  ⟨[.ofInt64 1, .ofInt64 1], rfl, by decide, rfl⟩

end Validator

end DataSchema
