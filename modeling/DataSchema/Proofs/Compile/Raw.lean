import DataSchema.Compiler
import DataSchema.Proofs.Json

/-!
# Schemas within a raw schema

`RawSchema.parts` lists the values in a raw schema that its type compiles as schemas: the elements
of an array, the properties of an object and the names of them, the members of a combination. A
reference has none. `RawSchema.Within` are the raw schemas at any depth, as they are written.
-/

namespace DataSchema

/-! ## Parts -/

namespace RawSchema

/-- A field that holds one schema. -/
def single (raw : RawSchema) (field : String) : List Json := (raw.get? field).toList

/-- A field that holds schemas by name. -/
def named (raw : RawSchema) (field : String) : List Json :=
  match raw.get? field with
  | some (.obj fields) => fields.map (·.2)
  | _ => []

/-- A field that holds a list of schemas. -/
def grouped (raw : RawSchema) (field : String) : List Json :=
  match raw.get? field with
  | some (.arr items) => items
  | _ => []

/-- The values that a type compiles as schemas. -/
def partsOf (raw : RawSchema) : String → List Json
  | "array" => raw.single "items"
  | "object" => raw.named "properties" ++ raw.single "propertyNames"
  | "combine" => raw.grouped "allOf" ++ raw.grouped "anyOf" ++ raw.grouped "oneOf"
  | _ => []

/-- The values that the type of a raw schema compiles as schemas. -/
def parts (raw : RawSchema) : List Json :=
  match Compiler.typeName? raw with
  | some type => raw.partsOf type
  | none => []

/-- The fields of the raw schemas that stand directly in a raw schema. -/
def children (raw : RawSchema) : List RawSchema :=
  raw.parts.filterMap fun part => (normalize part).toOption

/-- A raw schema that stands in another, at any depth. -/
inductive Within : RawSchema → RawSchema → Prop
  | self (raw : RawSchema) : Within raw raw
  | child {node c raw : RawSchema} : c ∈ raw.children → Within node c → Within node raw

theorem mem_children {raw c : RawSchema} :
    c ∈ raw.children ↔ ∃ part ∈ raw.parts, normalize part = .ok c := by
  simp only [children, List.mem_filterMap]
  refine exists_congr fun part => and_congr_right fun _ => ?_
  cases normalize part <;> simp [Except.toOption]

/-! ## Where parts stand -/

/-- The fields that hold schemas. -/
def holders : List String := ["items", "properties", "propertyNames", "allOf", "anyOf", "oneOf"]

/-- A value holds itself, and its elements or the values of its fields. -/
inductive Holds : Json → Json → Prop
  | self (j : Json) : Holds j j
  | item {j : Json} {items : List Json} (h : j ∈ items) : Holds (.arr items) j
  | field {e : String × Json} {fields : List (String × Json)} (h : e ∈ fields) :
      Holds (.obj fields) e.2

theorem Holds.depth_le {j part : Json} (h : Holds j part) : part.depth ≤ j.depth := by
  cases h with
  | self => exact Nat.le_refl _
  | item h => exact Nat.le_of_lt (Json.depth_lt_arr h)
  | field h => exact Nat.le_of_lt (Json.depth_lt_obj h)

theorem Holds.sortedKeys {j part : Json} (h : Holds j part) (hj : j.SortedKeys) :
    part.SortedKeys := by
  cases h with
  | self => exact hj
  | item h => cases hj with | arr hitems => exact hitems _ h
  | field h => cases hj with | obj _ hfields => exact hfields _ h

theorem holds_of_mem_single {raw : RawSchema} {field : String} {part : Json}
    (h : part ∈ raw.single field) : ∃ e ∈ raw, e.1 = field ∧ Holds e.2 part :=
  ⟨_, Dict.mem_of_get? (Option.mem_toList.1 h), rfl, .self part⟩

theorem holds_of_mem_named {raw : RawSchema} {field : String} {part : Json}
    (h : part ∈ raw.named field) : ∃ e ∈ raw, e.1 = field ∧ Holds e.2 part := by
  unfold named at h
  split at h
  · next fields hget =>
    obtain ⟨e, he, rfl⟩ := List.mem_map.1 h
    exact ⟨_, Dict.mem_of_get? hget, rfl, .field he⟩
  · cases h

theorem holds_of_mem_grouped {raw : RawSchema} {field : String} {part : Json}
    (h : part ∈ raw.grouped field) : ∃ e ∈ raw, e.1 = field ∧ Holds e.2 part := by
  unfold grouped at h
  split at h
  · next items hget => exact ⟨_, Dict.mem_of_get? hget, rfl, .item h⟩
  · cases h

/-- Every part is in a field that holds schemas. -/
theorem holds_of_mem_partsOf {raw : RawSchema} {type : String} {part : Json}
    (h : part ∈ raw.partsOf type) : ∃ e ∈ raw, e.1 ∈ holders ∧ Holds e.2 part := by
  have hfield : ∀ {field : String}, field ∈ holders →
      (∃ e ∈ raw, e.1 = field ∧ Holds e.2 part) → ∃ e ∈ raw, e.1 ∈ holders ∧ Holds e.2 part := by
    rintro field hmem ⟨e, he, rfl, hholds⟩
    exact ⟨e, he, hmem, hholds⟩
  unfold partsOf at h
  split at h
  · exact hfield (by decide) (holds_of_mem_single h)
  · rcases List.mem_append.1 h with h | h
    · exact hfield (by decide) (holds_of_mem_named h)
    · exact hfield (by decide) (holds_of_mem_single h)
  · rcases List.mem_append.1 h with h | h
    · rcases List.mem_append.1 h with h | h
      · exact hfield (by decide) (holds_of_mem_grouped h)
      · exact hfield (by decide) (holds_of_mem_grouped h)
    · exact hfield (by decide) (holds_of_mem_grouped h)
  · cases h

theorem holds_of_mem_parts {raw : RawSchema} {part : Json} (h : part ∈ raw.parts) :
    ∃ e ∈ raw, e.1 ∈ holders ∧ Holds e.2 part := by
  unfold parts at h
  split at h
  · exact holds_of_mem_partsOf h
  · cases h

end RawSchema

end DataSchema
