import DataSchema.Compiler
import DataSchema.Proofs.Validate.Presence

/-!
# Listed properties in the output

`requiredProperties` lists names of properties, and one expects each of them in every object that is
accepted (`ObjectSchema.HasListed`). Validating does not read the list: a property is required by its
own schema, and compiling makes the schemas of listed properties required where it can.

**Theorem (`hasListed_iff`).** An accepted object has all listed properties exactly if each is
`Supplied`. What is declared is supplied if its schema is required, or if data or a default fills it.
A name that is listed and not declared is supplied only by data that happens to have it, and that
keeps it as a matched or as an additional property.

So a listed name that is not declared may be missing (`not_hasListed_listedOnly`).
-/

namespace DataSchema

namespace ObjectSchema

/-- The object has each property that is listed as required, patterns apart. -/
def HasListed (o : ObjectSchema) (fields : Dict Json) : Prop :=
  ∀ name ∈ o.requiredProperties, (∀ p ∈ o.regexNameProperties.getD [], p.1.source ≠ name) →
    fields.contains name = true

/-- Something makes a property appear in the output. For additional properties it takes a schema
for names that accepts the name. -/
inductive Supplied (o : ObjectSchema) (accepts : Schema → String → Prop) (input : Dict Json)
    (name : String) : Prop
  | required {s : Schema} (mem : (name, s) ∈ o.properties.getD []) (required : s.required = true)
  | declared {s : Schema} (mem : (name, s) ∈ o.properties.getD [])
      (fills : s.Fills (input.get? name))
  | matched {s : Schema} {given : Json} (undeclared : o.Undeclared name)
      (mem : (name, given) ∈ input) (first : o.FirstMatch name s) (fills : s.Fills (some given))
  | additional {given : Json} (undeclared : o.Undeclared name) (mem : (name, given) ∈ input)
      (unmatched : o.Unmatched name) (allowed : o.allowAdditionalProperties = true)
      (names : ∀ s ∈ o.propertyNames, accepts s name)

end ObjectSchema

namespace Validator

open Validate

variable {options : ValidatorOptions} {top : Option TopSchema} {n depth t : Nat}

/-- A schema accepts a name without errors. -/
def Accepts (options : ValidatorOptions) (top : Option TopSchema) (n depth : Nat) (s : Schema)
    (name : String) : Prop :=
  ((builtin options).validateWithin top n s (some (.str name)) depth).1.errors = []

section Names

variable {o : ObjectSchema} {input : Dict Json} {name : String}

theorem supplied_of_declared {value : Json}
    (h : Declared ((builtin options).context top n) depth input (o.properties.getD []) name value) :
    o.Supplied (Accepts options top n depth) input name := by
  obtain ⟨schema, hmem, hrun⟩ := h
  have hfills := (isSome_iff_fills hrun).1 rfl
  exact .declared hmem hfills

theorem supplied_of_other {value : Json}
    (h : Other ((builtin options).context top n) depth o input name value) :
    o.Supplied (Accepts options top n depth) input name := by
  obtain ⟨hfree, given, hmem, hvalue⟩ := h
  have hundeclared := isDeclared_eq_false.1 hfree
  cases hvalue with
  | matched found run =>
    have hfills := (isSome_iff_fills run).1 rfl
    exact .matched hundeclared hmem (patternProperty?_eq_some.1 found) hfills
  | additional unmatched keeps =>
    obtain ⟨hallowed, hnames⟩ := keeps
    exact .additional hundeclared hmem (patternProperty?_eq_none.1 unmatched) hallowed hnames

/-- A property is in the output exactly if something supplies it. -/
theorem contains_iff_supplied {output : Dict Json}
    (entries : Adds [] (fun name value =>
      Declared ((builtin options).context top n) depth input (o.properties.getD []) name value ∨
        Other ((builtin options).context top n) depth o input name value) output)
    (declared : ∀ p ∈ o.properties.getD [], ∃ value,
      ((builtin options).validateWithin top n p.2 (input.get? p.1)).Ends depth value depth)
    (matched : ∀ e ∈ input, isDeclared o e.1 = false → ∀ schema,
      patternProperty? o e.1 = some schema → ∃ value,
        ((builtin options).validateWithin top n schema (some e.2)).Ends depth value depth) :
    output.contains name = true ↔ o.Supplied (Accepts options top n depth) input name := by
  rw [entries.contains]
  constructor
  · rintro (hnil | ⟨value, hdeclared | hother⟩)
    · cases hnil
    · exact supplied_of_declared hdeclared
    · exact supplied_of_other hother
  · intro hsupplied
    refine .inr ?_
    cases hsupplied with
    | required mem hrequired =>
      obtain ⟨_, hrun⟩ := declared _ mem
      obtain ⟨value, rfl⟩ := exists_of_required hrequired hrun
      exact ⟨value, .inl ⟨_, mem, hrun⟩⟩
    | declared mem fills =>
      obtain ⟨_, hrun⟩ := declared _ mem
      obtain ⟨value, rfl⟩ := exists_of_fills fills hrun
      exact ⟨value, .inl ⟨_, mem, hrun⟩⟩
    | @matched s given undeclared mem first fills =>
      have hfree := isDeclared_eq_false.2 undeclared
      have hfound := patternProperty?_eq_some.2 first
      obtain ⟨_, hrun⟩ := matched _ mem hfree _ hfound
      obtain ⟨value, rfl⟩ := exists_of_fills fills hrun
      exact ⟨value, .inr ⟨hfree, given, mem, .matched hfound hrun⟩⟩
    | @additional given undeclared mem unmatched allowed names =>
      have hfree := isDeclared_eq_false.2 undeclared
      have hnone := patternProperty?_eq_none.2 unmatched
      exact ⟨given, .inr ⟨hfree, given, mem, .additional hnone ⟨allowed, names⟩⟩⟩

end Names

/-- **An accepted object has all listed properties exactly if each of them is supplied.** -/
theorem hasListed_iff {s : Schema} {o : ObjectSchema} (hk : s.kind = .object o)
    {data : Option Json} {output : Dict Json}
    (h : ((builtin options).validateWithin top (n + 1) s data).Ends depth (some (.obj output)) t) :
    ∃ input, Given s data (.obj input) ∧ (o.HasListed output ↔
      ∀ name ∈ o.requiredProperties, (∀ p ∈ o.regexNameProperties.getD [], p.1.source ≠ name) →
        o.Supplied (Accepts options top n depth) input name) := by
  cases accepted_of_ends h with
  | @object o' input _ kind given entries declared matched =>
    obtain rfl : o = o' := SchemaKind.object.inj (hk.symm.trans kind)
    refine ⟨input, given, ?_⟩
    refine forall_congr' fun name => forall_congr' fun _ => forall_congr' fun _ => ?_
    exact contains_iff_supplied entries declared matched
  | combine kind => rw [hk] at kind; cases kind
  | ref kind => rw [hk] at kind; cases kind

/-- A required integer, which is listed. -/
def identified : ObjectSchema :=
  { properties := some [("id", ⟨true, none, .integer ⟨none, none, none, none, none⟩⟩)]
    regexNameProperties := none
    propertyNames := none
    dependencies := none
    requiredProperties := ["id"]
    allowAdditionalProperties := false
    silentIgnore := false }

set_option maxRecDepth 10000 in
theorem hasListed_identified :
    ((builtin {}).validateWithin none 2 (.ofKind (.object identified))
        (some (.obj [("id", .str "1")]))).Ends 0 (some (.obj [("id", .ofInt64 1)])) 0 ∧
      identified.HasListed [("id", .ofInt64 1)] := by
  have hrun : ((builtin {}).validateWithin none 2 (.ofKind (.object identified))
      (some (.obj [("id", .str "1")]))).Ends 0 (some (.obj [("id", .ofInt64 1)])) 0 :=
    ⟨rfl, rfl, rfl⟩
  obtain ⟨input, -, hiff⟩ := hasListed_iff rfl hrun
  refine ⟨hrun, hiff.2 fun name hname _ => ?_⟩
  obtain rfl := List.mem_singleton.1 hname
  exact .required List.mem_cons_self rfl

/-- A listed property that is not declared. -/
def listedOnlyRaw : Json :=
  .obj [("requiredProperties", .arr [.str "a"]), ("type", .str "object")]

/-- What `listedOnlyRaw` compiles to keeps the list, and nothing else of it. -/
def listedOnly : ObjectSchema :=
  { properties := none
    regexNameProperties := none
    propertyNames := none
    dependencies := none
    requiredProperties := ["a"]
    allowAdditionalProperties := false
    silentIgnore := false }

set_option maxRecDepth 10000 in
/-- The empty object is accepted, though it has not got the listed property. -/
theorem not_hasListed_listedOnly :
    ((Compiler.builtin {}).compile listedOnlyRaw).value? =
        some (.ofSchema (.ofKind (.object listedOnly))) ∧
      ((builtin {}).validate (.ofSchema (.ofKind (.object listedOnly)))
        (some (.obj []))).value? = some (.obj []) ∧
      ¬ listedOnly.HasListed [] := by
  refine ⟨rfl, rfl, fun h => ?_⟩
  have hcontains := h "a" List.mem_cons_self nofun
  cases hcontains

end Validator

end DataSchema
