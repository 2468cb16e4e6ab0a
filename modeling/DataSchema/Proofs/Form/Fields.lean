import DataSchema.Proofs.Dict
import DataSchema.Proofs.Traverse
import DataSchema.Schema.Form

/-!
# Fields of the JSON form

What has been written into the fields of a form can be looked up: `get?_base`, `get?_addOption` and
`get?_extend` say under which name each value stands. Decoders are the other direction:
`Decoder.Reads d form` says that `d` reads back whatever is written by `form`, and each decoder that
the forms use has such a law.
-/

namespace DataSchema

/-! ## Looking up what was written -/

namespace Form

theorem get?_base (s : Schema) (key : String) :
    (base s).get? key =
      if "default" = key ∧ s.default ≠ none then s.default
      else if "required" = key then some (.bool s.required)
      else if "type" = key then some (.str s.typeName)
      else none := by
  unfold base
  cases s.default with
  | none => simp [Dict.get?_cons]
  | some d => simp [Dict.get?_insert, Dict.get?_cons]

theorem get?_addOption (fields : Dict Json) (name : String) (value : Option Json) (key : String) :
    (addOption fields name value).get? key =
      if name = key then value.or (fields.get? key) else fields.get? key := by
  unfold addOption
  cases value with
  | none => simp
  | some v => simp [Dict.get?_insert]

theorem sorted_addOption {fields : Dict Json} (h : Dict.Sorted fields) (name : String)
    (value : Option Json) : Dict.Sorted (addOption fields name value) := by
  unfold addOption
  cases value with
  | none => exact h
  | some v => exact h.insert name v

/-- Fields that are added hide those that are there. -/
theorem get?_extend {more : Dict Json} (h : Dict.Sorted more) (fields : Dict Json) (key : String) :
    (extend fields more).get? key = (more.get? key).or (fields.get? key) := by
  induction more generalizing fields with
  | nil => rfl
  | cons e rest ih =>
    obtain ⟨k, v⟩ := e
    have hrest := (Dict.sorted_cons.1 h).2
    change (extend (fields.insert k v) rest).get? key = _
    rw [ih hrest, Dict.get?_insert, Dict.get?_cons]
    by_cases hk : k = key
    · subst hk
      simp [h.get?_tail]
    · simp [hk]

theorem sorted_boundsFields {α : Type} (form : α → Json) (b : Bounds α) :
    Dict.Sorted (boundsFields form b) := by
  have hnil : Dict.Sorted ([] : Dict Json) := List.Pairwise.nil
  exact sorted_addOption (sorted_addOption (sorted_addOption (sorted_addOption
    (sorted_addOption hnil _ _) _ _) _ _) _ _) _ _

theorem sorted_stringFields (c : StringSchema) : Dict.Sorted (stringFields c) := by
  have hnil : Dict.Sorted ([] : Dict Json) := List.Pairwise.nil
  exact sorted_addOption (sorted_addOption (sorted_addOption (sorted_addOption
    (sorted_addOption (sorted_addOption hnil _ _) _ _) _ _) _ _) _ _) _ _

end Form

/-! ## Decoders read what was written -/

namespace Decoder

variable {α : Type}

/-- The decoder reads back every value from its form, and the form is not `null`. -/
structure Reads (d : Decoder α) (form : α → Json) : Prop where
  decode : ∀ a, d (form a) = .ok a
  ne_null : ∀ a, form a ≠ .null

theorem reads_binary64 : binary64.Reads Form.ofFloat :=
  ⟨fun _ => rfl, fun _ => nofun⟩

theorem int64OfInt?_toInt (n : Int64) : int64OfInt? n.toInt = some n := by
  have hle := n.le_toInt
  have hlt := n.toInt_lt
  unfold int64OfInt?
  rw [if_pos ⟨by omega, by omega⟩, Int64.ofInt_toInt]

theorem reads_int64 : int64.Reads Json.ofInt64 := by
  refine ⟨fun n => ?_, fun _ => nofun⟩
  simp [int64, Json.ofInt64, WideInt.ofInt64, int64OfInt?_toInt]

theorem reads_count : count.Reads Json.ofUInt64 := by
  refine ⟨fun n => ?_, fun _ => nofun⟩
  simp [count, Json.ofUInt64]

theorem reads_text : text.Reads .str :=
  ⟨fun _ => rfl, fun _ => nofun⟩

end Decoder

theorem Pattern.ofSource_source (p : Pattern) : Pattern.ofSource p.source = .ok p := by
  unfold Pattern.ofSource
  split
  · exact congrArg Except.ok (Pattern.ext_source rfl)
  · next e he => rw [p.parsed] at he; cases he

namespace Decoder

variable {α : Type} {d : Decoder α} {form : α → Json}

theorem reads_pattern : pattern.Reads fun p => .str p.source := by
  refine ⟨fun p => ?_, fun _ => nofun⟩
  change (Pattern.ofSource p.source).mapError _ = _
  rw [Pattern.ofSource_source]
  rfl

theorem Reads.list (h : d.Reads form) : (Decoder.list d).Reads fun as => .arr (as.map form) := by
  refine ⟨fun as => ?_, fun _ => nofun⟩
  exact mapM_map_inverse as h.decode

/-- A row of texts that are forms of names. -/
theorem reads_names {known : List α} {name : α → String}
    (h : ∀ a, known.find? (fun b => name b = name a) = some a) :
    (Decoder.list (oneOf known name)).Reads fun as => Form.ofTexts (as.map name) := by
  have hone : (oneOf known name).Reads fun a => .str (name a) :=
    ⟨fun a => by simp [oneOf, h a], fun _ => nofun⟩
  simpa [Form.ofTexts, Function.comp_def] using hone.list

theorem Reads.dict (h : d.Reads form) :
    (Decoder.dict d).Reads fun as => .obj (as.map fun (k, a) => (k, form a)) := by
  refine ⟨fun as => ?_, fun _ => nofun⟩
  refine mapM_map_inverse as fun (k, a) => ?_
  show (do return (k, ← d (form a)) : Except String (String × α)) = _
  rw [h.decode]
  rfl

/-- An optional field is read back, since a form is never mistaken for a missing value. -/
theorem Reads.optionalField (h : d.Reads form) {fields : Dict Json} {name : String}
    {value : Option α} (hget : fields.get? name = value.map form) :
    Decoder.optionalField d fields name = .ok value := by
  unfold Decoder.optionalField field?
  rw [hget]
  cases value with
  | none => rfl
  | some a =>
    have hopt : optional d (form a) = .ok (some a) := by
      unfold optional
      split
      · next hnull => exact absurd hnull (h.ne_null a)
      · rw [h.decode]; rfl
    simp only [Option.map_some, hopt]
    rfl

end Decoder

end DataSchema
