import DataSchema.Proofs.Compile.Merge
import DataSchema.Proofs.Json

/-!
# Fields that are null

In a raw schema a field that is `null` is not set. Whatever reads a field takes `null` as it takes a
field that is missing (`SameSet.read`), with two exceptions: the default of a schema of type `null`,
and the fields of a reference, which are compared with those of its definition.

**Theorem (`compile_without_nulls`).** Raw schemas of all built-in types but references compile to
the same, with the same diagnostics, when any fields that are `null` are left out, except the default
of a schema of type `null`.

Two raw schemas that have the same set are compared type by type, and each compiler of a type field by
field.
-/

namespace DataSchema

/-- The raw schema without some of its fields. -/
def RawSchema.without (raw : RawSchema) (fields : List String) : RawSchema :=
  raw.filter fun e => e.1 ∉ fields

namespace Compile

open Step

/-- The same fields are set, to the same values. -/
def SameSet (raw raw' : RawSchema) : Prop :=
  ∀ field, Json.present (raw.get? field) = Json.present (raw'.get? field)

theorem get?_without {raw : RawSchema} {fields : List String} (field : String) :
    (raw.without fields).get? field = if field ∈ fields then none else raw.get? field := by
  rw [RawSchema.without, Dict.get?_filter raw fun key => key ∉ fields]
  simp

theorem sameSet_without {raw : RawSchema} {fields : List String}
    (h : ∀ field ∈ fields, raw.get? field = some .null) : SameSet (raw.without fields) raw := by
  intro field
  rw [get?_without]
  split
  · next hfield => rw [h field hfield]; rfl
  · rfl

namespace SameSet

variable {α : Type} {raw raw' : RawSchema} {ctx : Context}

/-- A field is the same in both, or it is `null` in one and missing in the other. -/
@[elab_as_elim]
theorem elim {motive : Option Json → Option Json → Prop} (h : SameSet raw raw') (field : String)
    (same : ∀ j, motive j j) (cleared : motive none (some .null))
    (uncleared : motive (some .null) none) : motive (raw.get? field) (raw'.get? field) := by
  rcases Json.eq_or_unset_of_present (h field) with heq | ⟨hj | hj, hj' | hj'⟩
  · rw [heq]
    exact same _
  all_goals rw [hj, hj']
  · exact same none
  · exact cleared
  · exact uncleared
  · exact same _

/-- What takes `null` as it takes a missing value reads the same. -/
theorem read (h : SameSet raw raw') (f : Option Json → α) (hf : f (some .null) = f none)
    (field : String) : f (raw.get? field) = f (raw'.get? field) :=
  h.elim field (fun _ => rfl) hf.symm hf

/-! ## Fields -/

theorem flag_eq (h : SameSet raw raw') (field : String) (default : Bool) :
    flag raw field default = flag raw' field default := by
  simp only [flag, h.read (Coerce.boolean (some default)) rfl]

theorem required_eq (h : SameSet raw raw') : required raw = required raw' := h.flag_eq _ _

theorem rawDefault_eq (h : SameSet raw raw') : rawDefault raw = rawDefault raw' := h "default"

theorem checkedDefault_eq (h : SameSet raw raw') (expected : String) (test : Json → Bool) :
    checkedDefault raw expected test = checkedDefault raw' expected test := by
  rw [checkedDefault, checkedDefault, h.rawDefault_eq]

theorem members_eq (h : SameSet raw raw') (element : Coerce.Reader α) :
    members raw element = members raw' element := by
  simp only [members, h.read (Coerce.array element none) rfl]

theorem roundedBound_eq (h : SameSet raw raw') (name : String) (round : Binary64 → Binary64) :
    roundedBound raw name round = roundedBound raw' name round := by
  simp only [roundedBound, h.read (Coerce.int64 none) rfl, h.read (Coerce.number none) rfl]

theorem names_eq (h : SameSet raw raw') (field : String) : names raw field = names raw' field := by
  unfold names
  exact h.elim field (fun _ => rfl) rfl rfl

theorem knownNames_eq (h : SameSet raw raw') (field : String) (ofName? : String → Option α) :
    knownNames raw field ofName? = knownNames raw' field ofName? := by
  rw [knownNames, knownNames, h.names_eq]

theorem minLength_eq (h : SameSet raw raw') : minLength raw = minLength raw' := by
  simp only [minLength, h.read (Coerce.int64 none) rfl]

theorem maxLength_eq (h : SameSet raw raw') (least : Option UInt64) :
    maxLength raw least = maxLength raw' least := by
  simp only [maxLength, h.read (Coerce.int64 none) rfl]

/-! ## Scalars -/

theorem boolean_eq (h : SameSet raw raw') : boolean raw = boolean raw' := by
  simp only [boolean, h.required_eq, h.read (Coerce.boolean none) rfl]

/-- The default of a schema of type `null` may be `null`. -/
theorem null_eq (h : SameSet raw raw') (hdefault : raw.get? "default" = raw'.get? "default") :
    null raw = null raw' := by
  simp only [null, h.required_eq, hdefault]

theorem number_eq (h : SameSet raw raw') : number raw = number raw' := by
  simp only [number, h.required_eq, h.members_eq, h.read (Coerce.number none) rfl]

theorem integer_eq (h : SameSet raw raw') : integer raw = integer raw' := by
  simp only [integer, h.required_eq, h.members_eq, h.roundedBound_eq,
    h.read (Coerce.int64 none) rfl]

theorem string_eq (h : SameSet raw raw') : string raw = string raw' := by
  simp only [string, h.required_eq, h.members_eq, h.minLength_eq, h.maxLength_eq, h.knownNames_eq,
    h.read (Coerce.string none) rfl, h.read (Coerce.regex none) rfl]

/-! ## Arrays and combinations -/

theorem items_eq (h : SameSet raw raw') : items ctx raw = items ctx raw' := by
  unfold items
  exact h.elim "items" (fun _ => rfl) rfl rfl

theorem array_eq (h : SameSet raw raw') : array ctx raw = array ctx raw' := by
  simp only [array, h.required_eq, h.flag_eq, h.checkedDefault_eq, h.items_eq]

theorem group_eq (h : SameSet raw raw') (name : String) :
    group ctx raw name = group ctx raw' name := by
  unfold group
  exact h.elim name (fun _ => rfl) rfl rfl

theorem strategy_eq (h : SameSet raw raw') : strategy raw = strategy raw' := by
  simp only [strategy, h.read (Coerce.string (some "all")) rfl]

theorem declaresGroup_eq (h : SameSet raw raw') : declaresGroup raw = declaresGroup raw' := by
  funext name
  unfold declaresGroup
  exact h.elim name (fun _ => rfl) rfl rfl

theorem combine_eq (h : SameSet raw raw') : combine ctx raw = combine ctx raw' := by
  simp only [combine, h.required_eq, h.strategy_eq, h.group_eq, h.declaresGroup_eq,
    h.rawDefault_eq]

/-! ## Objects -/

theorem properties_eq (h : SameSet raw raw') (listed : List String) :
    properties ctx raw listed = properties ctx raw' listed := by
  unfold properties
  exact h.elim "properties" (fun _ => rfl) rfl rfl

theorem propertyNames_eq (h : SameSet raw raw') :
    propertyNames ctx raw = propertyNames ctx raw' := by
  rw [propertyNames, propertyNames, h "propertyNames"]

theorem dependencies_eq (h : SameSet raw raw') : dependencies raw = dependencies raw' := by
  unfold dependencies
  exact h.elim "dependencies" (fun _ => rfl) rfl rfl

theorem object_eq (h : SameSet raw raw') : object ctx raw = object ctx raw' := by
  simp only [object, h.required_eq, h.flag_eq, h.checkedDefault_eq, h.properties_eq,
    h.propertyNames_eq, h.dependencies_eq, h.read (Coerce.array Coerce.string (some [])) rfl]

end SameSet

/-! ## All types -/

/-- The compilers of all built-in types but references take `null` as a missing value. -/
theorem SameSet.compile_eq {raw raw' : RawSchema} (h : SameSet raw raw') {type : String}
    {t : TypeCompiler} (ht : TypeCompiler.builtin.get? type = some t) (href : type ≠ "ref")
    (hdefault : type = "null" → raw.get? "default" = raw'.get? "default") (ctx : Context) :
    t.compile ctx raw = t.compile ctx raw' := by
  have hmem : (type, t) ∈ TypeCompiler.builtin := Dict.mem_of_get? ht
  simp only [TypeCompiler.builtin, List.mem_cons, Prod.mk.injEq, List.not_mem_nil, or_false] at hmem
  rcases hmem with ⟨rfl, rfl⟩ | ⟨rfl, rfl⟩ | ⟨rfl, rfl⟩ | ⟨rfl, rfl⟩ | ⟨rfl, rfl⟩ | ⟨rfl, rfl⟩ |
    ⟨rfl, rfl⟩ | ⟨rfl, rfl⟩ | ⟨rfl, rfl⟩
  · exact congrArg Run.ofStep h.array_eq
  · exact congrArg Run.ofNoted h.boolean_eq
  · exact congrArg Run.ofStep h.combine_eq
  · exact congrArg Run.ofNoted h.integer_eq
  · exact congrArg Run.ofNoted (h.null_eq (hdefault rfl))
  · exact congrArg Run.ofNoted h.number_eq
  · exact congrArg Run.ofStep h.object_eq
  · exact absurd rfl href
  · exact congrArg Run.ofNoted h.string_eq

end Compile

namespace Compiler

open Compile

/-- **A field that is `null` counts as missing.** Without it a raw schema is compiled to the same, with
the same diagnostics, in every registry and whatever other types there are. -/
theorem compile_without_nulls (c : Compiler) {raw : RawSchema} {type : String}
    (htype : typeName? raw = some type)
    (hbuiltin : c.types.get? type = TypeCompiler.builtin.get? type) (href : type ≠ "ref")
    {fields : List String} (hnull : ∀ field ∈ fields, raw.get? field = some .null)
    (hdefault : type = "null" → "default" ∉ fields) (depth : Nat) (r : Registry) :
    c.compileWithin depth (raw.without fields) r = c.compileWithin depth raw r := by
  have hsame : SameSet (raw.without fields) raw := sameSet_without hnull
  cases depth with
  | zero => rfl
  | succ depth =>
    rw [compileWithin, compileWithin, typeName?_congr (hsame "type"), htype]
    dsimp only
    rw [hbuiltin]
    cases ht : TypeCompiler.builtin.get? type with
    | none => rfl
    | some t =>
      refine congrFun (hsame.compile_eq ht href (fun hnulltype => ?_) _) r
      rw [get?_without, if_neg (hdefault hnulltype)]

/-- An object with a property, and all its other fields `null`. -/
def sparsePage : RawSchema :=
  [("allowAdditionalProperties", .null), ("default", .null), ("dependencies", .null),
    ("properties", .obj [("title", .obj [("minLength", .null), ("type", .str "string")])]),
    ("propertyNames", .null), ("required", .null), ("requiredProperties", .null),
    ("silentIgnore", .null), ("type", .str "object")]

/-- The fields of `sparsePage` that are `null`. -/
def sparseFields : List String :=
  ["allowAdditionalProperties", "default", "dependencies", "propertyNames", "required",
    "requiredProperties", "silentIgnore"]

theorem compile_without_nulls_page :
    ((builtin {}).compileWithin 2 sparsePage .empty).1.value?.isSome = true ∧
      (∀ field ∈ sparseFields, Dict.get? sparsePage field = some .null) ∧
      (builtin {}).compileWithin 2 (sparsePage.without sparseFields) .empty =
        (builtin {}).compileWithin 2 sparsePage .empty := by
  have hnull : ∀ field ∈ sparseFields, Dict.get? sparsePage field = some .null := by
    intro field hfield
    simp only [sparseFields, List.mem_cons, List.not_mem_nil, or_false] at hfield
    rcases hfield with rfl | rfl | rfl | rfl | rfl | rfl | rfl <;> rfl
  exact ⟨rfl, hnull,
    compile_without_nulls (builtin {}) rfl rfl (by decide) hnull (by decide) 2 .empty⟩

end Compiler

end DataSchema
