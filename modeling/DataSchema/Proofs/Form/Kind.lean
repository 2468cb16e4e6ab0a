import DataSchema.Compiler
import DataSchema.Proofs.Form.Fields
import DataSchema.Proofs.Json
import DataSchema.Proofs.Within

/-!
# The form of each kind is read back

`TypeCompiler.Faithful t s` says that a type writes the schema `s` and reads the schema back,
provided that the nested writer and reader do so for the children of `s`. Each built-in type is
faithful to the schemas of its kind (`faithful_boolean` to `faithful_ref`).

**What reading ignores.** The form of a schema shares its object with the fields that only the top
of a schema has, so a form is read from any fields that agree with those written (`Agrees`).

**Defaults.** Reading takes the default `null` for none, except on a null schema, which it leaves
no other default. A schema is `Normal` if its default is one that reading can give.
-/

namespace DataSchema

/-- The kind is built in, and the default is one that reading can give. -/
def Schema.Normal (s : Schema) : Prop :=
  match s.kind with
  | .custom _ _ => False
  | .null => ∀ d ∈ s.default, d = .null
  | _ => s.default ≠ some .null

namespace Form

/-- Look-ups agree, except for the fields that only the top of a schema has. -/
def Agrees (fields fields' : Dict Json) : Prop :=
  ∀ key, key ≠ "$id" → key ≠ "definitions" → fields'.get? key = fields.get? key

theorem Agrees.refl (fields : Dict Json) : Agrees fields fields := fun _ _ _ => rfl

/-- The schemas are written as objects that are at least as deep as they are high. -/
def Writes (write : Writer) (ss : List Schema) : Prop :=
  ∀ s ∈ ss, ∃ fields, write s = .ok (.obj fields) ∧ s.height ≤ (Json.obj fields).depth

/-- The schemas are read back. -/
def Inverts (read : Reader) (write : Writer) (ss : List Schema) : Prop :=
  ∀ s ∈ ss, ∀ j, write s = .ok j → read j = .ok s

/-- The fields are the form of a schema of a type. -/
structure IsForm (write : Writer) (read : Reader → Dict Json → Except FormError Schema)
    (fields : Dict Json) (s : Schema) : Prop where
  type : fields.get? "type" = some (.str s.typeName)
  plain : fields.get? "$id" = none ∧ fields.get? "definitions" = none
  deep : ∀ c ∈ s.children, ∃ key value, key ≠ "$id" ∧ key ≠ "definitions" ∧
    fields.get? key = some value ∧ c.height ≤ value.depth
  reads : ∀ nested, Inverts nested write s.children →
    ∀ fields', Agrees fields fields' → read nested fields' = .ok s

end Form

/-- The type writes the schema, and reads the schema back from what it wrote. -/
def TypeCompiler.Faithful (t : TypeCompiler) (s : Schema) : Prop :=
  ∀ {write : Form.Writer}, Form.Writes write s.children →
    ∃ fields, t.write write s = .ok (.obj fields) ∧ Form.IsForm write t.read fields s

namespace Form

/-! ## The base of a schema -/

/-- The fields that all kinds have in common are those of the schema. -/
def HasBase (fields : Dict Json) (s : Schema) : Prop :=
  ∀ key ∈ ["default", "required", "type"], fields.get? key = (base s).get? key

variable {fields fields' : Dict Json} {s : Schema}

theorem HasBase.type (h : HasBase fields s) : fields.get? "type" = some (.str s.typeName) := by
  rw [h _ (by simp), get?_base]
  simp

theorem HasBase.default (h : HasBase fields s) : fields.get? "default" = s.default := by
  rw [h _ (by simp), get?_base]
  cases s.default <;> simp

theorem readFlag_of_get? {typeName field : String} {complaint : Json → String} {json : Dict Json}
    {b : Bool} (h : json.get? field = some (.bool b)) :
    readFlag typeName field complaint json = .ok b := by
  unfold readFlag
  rw [h]

theorem HasBase.readFlag (h : HasBase fields s) (hf : Agrees fields fields')
    {typeName : String} {complaint : Json → String} :
    Form.readFlag typeName "required" complaint fields' = .ok s.required := by
  refine readFlag_of_get? ?_
  rw [hf _ (by simp) (by simp), h _ (by simp), get?_base]
  simp

theorem HasBase.readBase (h : HasBase fields s) (hf : Agrees fields fields')
    (hs : s.default ≠ some .null) {typeName : String} :
    Form.readBase typeName fields' = .ok (s.required, s.default) := by
  unfold Form.readBase
  rw [h.readFlag hf, hf _ (by simp) (by simp), h.default, Json.present_of_ne_null hs]
  rfl

/-! ## Scalars -/

theorem faithful_boolean (hs : s.Normal) (hk : s.kind = .boolean) :
    (TypeCompiler.scalar Compile.boolean writeBoolean readBoolean).Faithful s := by
  obtain ⟨required, default, kind⟩ := s
  obtain rfl : kind = .boolean := hk
  intro write _
  have hbase : HasBase (base ⟨required, default, .boolean⟩) ⟨required, default, .boolean⟩ :=
    fun _ _ => rfl
  refine ⟨_, rfl, hbase.type, by simp [get?_base], by simp [Schema.children],
    fun _ _ fields' hf => ?_⟩
  show readBoolean fields' = _
  unfold readBoolean
  rw [hbase.readBase hf hs]
  rfl

theorem faithful_null (hs : s.Normal) (hk : s.kind = .null) :
    (TypeCompiler.scalar Compile.null writeNull readNull).Faithful s := by
  obtain ⟨required, default, kind⟩ := s
  obtain rfl : kind = .null := hk
  intro write _
  have hbase : HasBase (base ⟨required, default, .null⟩) ⟨required, default, .null⟩ :=
    fun _ _ => rfl
  refine ⟨_, rfl, hbase.type, by simp [get?_base], by simp [Schema.children],
    fun _ _ fields' hf => ?_⟩
  show readNull fields' = _
  unfold readNull Form.readBase
  rw [hbase.readFlag hf, hf _ (by simp) (by simp), hbase.default]
  cases default with
  | none => rfl
  | some d =>
    obtain rfl : d = .null := hs d rfl
    rfl

/-- The names of the fields that stand beside the constraints of a kind. -/
def reserved : List String := ["default", "required", "type", "$id", "definitions"]

/-- A scalar whose constraints are written next to its base, and decoded on their own. -/
theorem faithful_constrained {α : Type} {compile : RawSchema → Noted (Option Schema)}
    {write : Schema → Except FormError Json} {read : Dict Json → Except FormError Schema}
    {typeName : String} {decode : Dict Json → Except String α} {kind : α → SchemaKind} {a : α}
    {more : Dict Json} (hs : s.default ≠ some .null) (hk : s.kind = kind a)
    (hwrite : write s = .ok (.obj (extend (base s) more)))
    (hread : ∀ json, read json = do
      let (required, default) ← readBase typeName json
      let constraints ← readConstraints typeName decode json
      return { required, default, kind := kind constraints })
    (hsorted : Dict.Sorted more) (hmore : ∀ key ∈ reserved, more.get? key = none)
    (hdecode : ∀ json, (∀ key, key ∉ reserved → Dict.get? json key = more.get? key) →
      decode json = .ok a)
    (hchildren : s.children = []) : (TypeCompiler.scalar compile write read).Faithful s := by
  obtain ⟨required, default, _⟩ := s
  obtain rfl := hk
  intro _ _
  have hbase : HasBase (extend (base ⟨required, default, kind a⟩) more)
      ⟨required, default, kind a⟩ := by
    intro key hkey
    rw [get?_extend hsorted, hmore key (by simp [reserved] at hkey ⊢; tauto), Option.none_or]
  have hplain : ∀ key ∈ ["$id", "definitions"],
      (extend (base ⟨required, default, kind a⟩) more).get? key = none := by
    intro key hkey
    rw [get?_extend hsorted, hmore key (by simp [reserved] at hkey ⊢; tauto), Option.none_or,
      get?_base]
    simp only [List.mem_cons, List.not_mem_nil, or_false] at hkey
    rcases hkey with rfl | rfl <;> simp
  refine ⟨_, hwrite, hbase.type, ⟨hplain _ (by simp), hplain _ (by simp)⟩, by simp [hchildren],
    fun _ _ fields' hf => ?_⟩
  have hconstraints : decode fields' = .ok a := by
    refine hdecode fields' fun key hkey => ?_
    simp only [reserved, List.mem_cons, List.not_mem_nil, or_false, not_or] at hkey
    obtain ⟨hdefault, hrequired, htype, hid, hdefinitions⟩ := hkey
    have hnone : (base ⟨required, default, kind a⟩).get? key = none := by
      rw [get?_base]
      simp [Ne.symm hdefault, Ne.symm hrequired, Ne.symm htype]
    rw [hf key hid hdefinitions, get?_extend hsorted, hnone, Option.or_none]
  show read fields' = _
  rw [hread, hbase.readBase hf hs, readConstraints, hconstraints]
  rfl

theorem decodeBounds_boundsFields {α : Type} {number : Decoder α} {form : α → Json}
    (h : number.Reads form) {b : Bounds α} {json : Dict Json}
    (hget : ∀ key, key ∉ reserved → json.get? key = (boundsFields form b).get? key) :
    decodeBounds number json = .ok b := by
  have hmin : Decoder.optionalField number json "minimum" = .ok b.minimum :=
    h.optionalField (by simp [hget, reserved, boundsFields, get?_addOption])
  have hmax : Decoder.optionalField number json "maximum" = .ok b.maximum :=
    h.optionalField (by simp [hget, reserved, boundsFields, get?_addOption])
  have hxmin : Decoder.optionalField number json "exclusiveMinimum" = .ok b.exclusiveMinimum :=
    h.optionalField (by simp [hget, reserved, boundsFields, get?_addOption])
  have hxmax : Decoder.optionalField number json "exclusiveMaximum" = .ok b.exclusiveMaximum :=
    h.optionalField (by simp [hget, reserved, boundsFields, get?_addOption])
  have henum : Decoder.optionalField (Decoder.list number) json "enum" = .ok b.members :=
    h.list.optionalField (by simp [hget, reserved, boundsFields, get?_addOption])
  unfold decodeBounds
  rw [hmin, hmax, hxmin, hxmax, henum]
  rfl

theorem faithful_number {b : Bounds Binary64} (hs : s.Normal) (hk : s.kind = .number b) :
    (TypeCompiler.scalar Compile.number writeNumber readNumber).Faithful s := by
  refine faithful_constrained (by simpa [Schema.Normal, hk] using hs) hk (by simp [writeNumber, hk])
    (fun _ => rfl) (sorted_boundsFields ofFloat b)
    (by simp [reserved, boundsFields, get?_addOption]) (fun json hget => ?_)
    (by simp [Schema.children, hk])
  exact decodeBounds_boundsFields Decoder.reads_binary64 hget

theorem faithful_integer {b : Bounds Int64} (hs : s.Normal) (hk : s.kind = .integer b) :
    (TypeCompiler.scalar Compile.integer writeInteger readInteger).Faithful s := by
  refine faithful_constrained (by simpa [Schema.Normal, hk] using hs) hk (by simp [writeInteger, hk])
    (fun _ => rfl) (sorted_boundsFields Json.ofInt64 b)
    (by simp [reserved, boundsFields, get?_addOption]) (fun json hget => ?_)
    (by simp [Schema.children, hk])
  exact decodeBounds_boundsFields Decoder.reads_int64 hget

theorem find?_formatName (f : StringFormat) :
    StringFormat.all.find? (fun g => g.name = f.name) = some f := by
  cases f <;> decide

theorem find?_transformName (t : StringTransform) :
    StringTransform.all.find? (fun u => u.name = t.name) = some t := by
  cases t <;> decide

theorem decodeString_stringFields {c : StringSchema} {json : Dict Json}
    (hget : ∀ key, key ∉ reserved → json.get? key = (stringFields c).get? key) :
    decodeString json = .ok c := by
  have hmembers : Decoder.optionalField (Decoder.list Decoder.text) json "enum" = .ok c.members :=
    Decoder.reads_text.list.optionalField
      (by simp [hget, reserved, stringFields, get?_addOption]; rfl)
  have hformat : Decoder.optionalField
      (Decoder.list (Decoder.oneOf StringFormat.all StringFormat.name)) json "format" =
      .ok c.format :=
    (Decoder.reads_names find?_formatName).optionalField
      (by simp [hget, reserved, stringFields, get?_addOption])
  have hmax : Decoder.optionalField Decoder.count json "maxLength" = .ok c.maxLength :=
    Decoder.reads_count.optionalField (by simp [hget, reserved, stringFields, get?_addOption])
  have hmin : Decoder.optionalField Decoder.count json "minLength" = .ok c.minLength :=
    Decoder.reads_count.optionalField (by simp [hget, reserved, stringFields, get?_addOption])
  have hpattern : Decoder.optionalField Decoder.pattern json "pattern" = .ok c.pattern :=
    Decoder.reads_pattern.optionalField (by simp [hget, reserved, stringFields, get?_addOption])
  have htransform : Decoder.optionalField
      (Decoder.list (Decoder.oneOf StringTransform.all StringTransform.name)) json "transform" =
      .ok c.transform :=
    (Decoder.reads_names find?_transformName).optionalField
      (by simp [hget, reserved, stringFields, get?_addOption])
  unfold decodeString
  rw [hmembers, hformat, hmax, hmin, hpattern, htransform]
  rfl

theorem faithful_string {c : StringSchema} (hs : s.Normal) (hk : s.kind = .string c) :
    (TypeCompiler.scalar Compile.string writeString readString).Faithful s := by
  refine faithful_constrained (by simpa [Schema.Normal, hk] using hs) hk (by simp [writeString, hk])
    (fun _ => rfl) (sorted_stringFields c)
    (by simp [reserved, stringFields, get?_addOption]) (fun json hget => ?_)
    (by simp [Schema.children, hk])
  exact decodeString_stringFields hget

theorem faithful_ref {name : String} (hs : s.Normal) (hk : s.kind = .ref name) :
    (TypeCompiler.composite Compile.reference (fun _ => writeReference)
      (fun _ => readReference)).Faithful s := by
  obtain ⟨required, default, kind⟩ := s
  obtain rfl : kind = .ref name := hk
  intro _ _
  have hbase : HasBase ((base ⟨required, default, .ref name⟩).insert "$ref" (.str name))
      ⟨required, default, .ref name⟩ := by
    intro key hkey
    rw [Dict.get?_insert, if_neg (by rintro rfl; simp at hkey)]
  refine ⟨_, rfl, hbase.type, by simp [Dict.get?_insert, get?_base], by simp [Schema.children],
    fun _ _ fields' hf => ?_⟩
  have hname : (fields'.get? "$ref").bind Json.str? = some name := by
    rw [hf _ (by simp) (by simp), Dict.get?_insert]
    simp [Json.str?]
  show readReference fields' = _
  unfold readReference
  rw [hbase.readBase hf hs]
  simp only [hname]
  rfl

end Form

end DataSchema
