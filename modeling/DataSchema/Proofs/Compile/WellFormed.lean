import DataSchema.Proofs.Compile.Top

/-!
# Compiled schemas are well formed

`Schema.WellFormed` says of a schema, apart from its children, what validating and writing rely on:
the kind is built in, lists that are set are not empty, the bounds on a length are in order, a
combination has a group, and what stands in for missing data is data of the kind.

**Theorem (`everywhere_wellFormed`).** What compiles without error has a value, all nodes of which
are well formed, in the body and in the definitions.

Nothing is said of how a raw schema is written. A reference is compiled from its definition merged
with what it overrides, and the merged raw schema is checked like any other, so the induction is on
how a node was compiled (`Node.wellFormed`). Compiling stores schemas that are not well formed too,
but then there are errors as well, which hide the value.
-/

namespace DataSchema

/-! ## Constraints -/

/-- The lists that are set are not empty, and a text can be short enough and long enough. -/
structure StringSchema.WellFormed (c : StringSchema) : Prop where
  members : c.members ≠ some []
  format : c.format ≠ some []
  transform : c.transform ≠ some []
  positive : ∀ most ∈ c.maxLength, 1 ≤ most
  ordered : ∀ most ∈ c.maxLength, ∀ least ∈ c.minLength, least ≤ most

/-- What is set is not empty, and names are constrained as texts. -/
structure ObjectSchema.WellFormed (o : ObjectSchema) : Prop where
  properties : o.properties ≠ some []
  regexNameProperties : o.regexNameProperties ≠ some []
  dependencies : o.dependencies ≠ some []
  propertyNames : ∀ names ∈ o.propertyNames, ∃ c, names.kind = .string c

/-- There is a group, and no group is empty. -/
structure CombineSchema.WellFormed (c : CombineSchema) : Prop where
  declared : ∃ group ∈ [c.allOf, c.anyOf, c.oneOf], group ≠ none
  nonempty : ∀ group ∈ [c.allOf, c.anyOf, c.oneOf], group ≠ some []

namespace SchemaKind

/-- The kind is built in, and its constraints are well formed. -/
def WellFormed : SchemaKind → Prop
  | .boolean | .null | .array _ _ => True
  | .number bounds => bounds.members ≠ some []
  | .integer bounds => bounds.members ≠ some []
  | .string constraints => constraints.WellFormed
  | .object constraints => constraints.WellFormed
  | .combine groups => groups.WellFormed
  | .ref reference => reference ≠ ""
  | .custom _ _ => False

/-- The value can stand in for missing data of the kind. -/
def Admits (default : Json) : SchemaKind → Prop
  | .boolean => ∃ b, default = .bool b
  | .null => default = .null
  | .number _ => ∃ x : Binary64, default = .ofBinary64 x
  | .integer _ => ∃ n : Int64, default = .ofInt64 n
  | .string _ => ∃ s, default = .str s
  | .array _ _ => ∃ items, default = .arr items
  | .object _ => ∃ fields, default = .obj fields
  | .combine _ | .ref _ => default ≠ .null
  | .custom _ _ => False

end SchemaKind

/-- The kind is well formed, and the default can stand in for data of the kind. -/
structure Schema.WellFormed (s : Schema) : Prop where
  kind : s.kind.WellFormed
  default : ∀ d ∈ s.default, s.kind.Admits d

/-! ## Nodes -/

namespace Compile

variable {r : Registry} {raw : RawSchema} {s : Schema}

theorem exists_eq_of_mem_map {α : Type} {f : α → Json} {default : Option α} :
    ∀ d ∈ default.map f, ∃ a, d = f a := by
  intro d hd
  obtain ⟨a, -, rfl⟩ := Option.map_eq_some_iff.1 hd
  exact ⟨a, rfl⟩

theorem Node.wellFormed (h : Node r raw s) : s.WellFormed := by
  induction h with
  | boolean => exact ⟨trivial, exists_eq_of_mem_map⟩
  | null _ _ isNull => exact ⟨trivial, isNull⟩
  | number _ _ _ members => exact ⟨members, exists_eq_of_mem_map⟩
  | integer _ _ _ members => exact ⟨members, exists_eq_of_mem_map⟩
  | string _ _ _ members format transform maxLength lengths =>
    exact ⟨⟨members, format, transform, maxLength, lengths⟩, exists_eq_of_mem_map⟩
  | array _ _ isArr =>
    refine ⟨trivial, fun d hd => ?_⟩
    cases d with
    | arr items => exact ⟨items, rfl⟩
    | null | bool | num | str | obj => cases isArr _ hd
  | object _ _ isObj properties patterns names dependencies =>
    refine ⟨⟨properties, patterns, dependencies, names⟩, fun d hd => ?_⟩
    cases d with
    | obj fields => exact ⟨fields, rfl⟩
    | null | bool | num | str | arr => cases isObj _ hd
  | combine _ _ isSet groups declared =>
    refine ⟨⟨declared, groups⟩, ?_⟩
    rintro d hd rfl
    exact isSet hd
  | ref _ _ isSet nonempty =>
    refine ⟨nonempty, ?_⟩
    rintro d hd rfl
    exact isSet hd
  | inlined _ _ _ _ ih => exact ih

theorem Built.wellFormed (h : Built r s) : s.Everywhere Schema.WellFormed := by
  intro node hnode
  obtain ⟨raw, hraw⟩ := h node hnode
  exact hraw.wellFormed

theorem CompiledFrom.wellFormed {pathPrefix : String} {names : List (String × String)}
    {top : TopSchema} (h : CompiledFrom pathPrefix raw names r top) :
    top.Everywhere Schema.WellFormed := by
  intro root hroot node hnode
  obtain ⟨raw, hraw⟩ := h.built hroot hnode
  exact hraw.wellFormed

end Compile

/-! ## What compiles without error -/

namespace Compiler

open Compile

/-- **Compiled schemas are well formed.** What compiles without error has a value, and all its nodes
are well formed: as a whole schema with definitions, as a schema on its own, and as any raw schema
that is compiled on the way, in any registry and to any depth. -/
theorem everywhere_wellFormed (options : CompilerOptions) :
    (∀ whole, ((builtin options).compile whole).errors = [] →
      ∃ top, ((builtin options).compile whole).value? = some top ∧
        top.Everywhere Schema.WellFormed) ∧
    (∀ whole, ((builtin options).compileNode whole).errors = [] →
      ∃ s, ((builtin options).compileNode whole).value? = some s ∧
        s.Everywhere Schema.WellFormed) ∧
    ∀ n raw r, ((builtin options).compileWithin n raw r).1.errors = [] →
      ∃ s, ((builtin options).compileWithin n raw r).1.value? = some s ∧
        s.Everywhere Schema.WellFormed := by
  have hsound : ∀ n, Sound ((builtin options).context n).nested :=
    fun n => sound_compileWithin options n
  refine ⟨fun whole h => ?whole, fun whole h => ?node, fun n raw r h => ?nested⟩
  case whole =>
    obtain ⟨top, htop⟩ := exists_value?_compile h
    obtain ⟨fields, names, hfrom⟩ := compiledFrom_of_value? htop
    exact ⟨top, htop, hfrom.wellFormed⟩
  case node =>
    obtain ⟨s, hs, hbuilt⟩ := Sound.exists_value?_compile (hsound _) h
    exact ⟨s, hs, hbuilt.wellFormed⟩
  case nested =>
    obtain ⟨s, hs, hcompiled⟩ := Sound.exists_value? (hsound n) h
    exact ⟨s, hs, hcompiled.built.wellFormed⟩

/-- Articles with comments, which have comments in turn. What refers to the comments of an article
has the default of its own, and the title is a short text or nothing. -/
def articleRaw : Json :=
  .obj [
    ("definitions", .obj [
      ("comments", .obj [("items", .obj [
        ("properties", .obj [
          ("replies", .obj [("$ref", .str "#/definitions/comments"), ("type", .str "ref")]),
          ("text", .obj [("default", .str "?"), ("type", .str "string")])]),
        ("type", .str "object")]), ("type", .str "array")])]),
    ("properties", .obj [
      ("comments", .obj [("$ref", .str "#/definitions/comments"), ("default", .arr []),
        ("type", .str "ref")]),
      ("title", .obj [
        ("anyOf", .arr [
          .obj [("maxLength", .ofInt64 9), ("minLength", .ofInt64 1), ("type", .str "string")],
          .str "null"]),
        ("type", .str "combine")])]),
    ("type", .str "object")]

set_option maxRecDepth 20000 in
theorem everywhere_wellFormed_article :
    ((builtin {}).compile articleRaw).errors = [] ∧
      ∃ top, ((builtin {}).compile articleRaw).value? = some top ∧
        top.Everywhere Schema.WellFormed :=
  ⟨rfl, (everywhere_wellFormed {}).1 articleRaw rfl⟩

end Compiler

end DataSchema
