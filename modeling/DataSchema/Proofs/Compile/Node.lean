import DataSchema.Compiler
import DataSchema.Proofs.Json
import DataSchema.Proofs.Registry
import DataSchema.Proofs.Within
import DataSchema.Proofs.Yields

/-!
# Nodes of compiled schemas

`Compile.Node r raw s` lists what is known of a schema `s` that a raw schema `raw` was compiled to
without error, while the definitions of `r` were registered: the type of `raw`, and the constraints
on the fields of `s` itself, kind by kind. The schemas within `s` have raw schemas of their own, so
nothing is said of them here.

A reference that was replaced by its definition is a node of the merged raw schema
(`Node.inlined`). One that stayed names a definition whose own type is not `ref` (`Node.ref`).

Each scalar kind has its law here: what its compiling yields is a node.
-/

namespace DataSchema.Compile

open Step

/-- What is known of the root of a schema that was compiled without error. -/
inductive Node (r : Registry) : RawSchema → Schema → Prop
  | boolean {raw : RawSchema} (type : Compiler.typeName? raw = some "boolean") (required : Bool)
      (default : Option Bool) : Node r raw ⟨required, default.map .bool, .boolean⟩
  | null {raw : RawSchema} (type : Compiler.typeName? raw = some "null") (required : Bool)
      {default : Option Json} (isNull : ∀ d ∈ default, d = .null) :
      Node r raw ⟨required, default, .null⟩
  | number {raw : RawSchema} (type : Compiler.typeName? raw = some "number") (required : Bool)
      (default : Option Binary64) {bounds : Bounds Binary64} (members : bounds.members ≠ some []) :
      Node r raw ⟨required, default.map .ofBinary64, .number bounds⟩
  | integer {raw : RawSchema} (type : Compiler.typeName? raw = some "integer") (required : Bool)
      (default : Option Int64) {bounds : Bounds Int64} (members : bounds.members ≠ some []) :
      Node r raw ⟨required, default.map .ofInt64, .integer bounds⟩
  | string {raw : RawSchema} (type : Compiler.typeName? raw = some "string") (required : Bool)
      (default : Option String) {constraints : StringSchema}
      (members : constraints.members ≠ some []) (format : constraints.format ≠ some [])
      (transform : constraints.transform ≠ some [])
      (maxLength : ∀ most ∈ constraints.maxLength, 1 ≤ most.toNat)
      (lengths : ∀ most ∈ constraints.maxLength, ∀ least ∈ constraints.minLength, least ≤ most) :
      Node r raw ⟨required, default.map .str, .string constraints⟩
  | array {raw : RawSchema} (type : Compiler.typeName? raw = some "array") (required : Bool)
      {default : Option Json} (isArr : ∀ d ∈ default, d.isArr = true) (items : Schema)
      (unique : Bool) : Node r raw ⟨required, default, .array items unique⟩
  | object {raw : RawSchema} (type : Compiler.typeName? raw = some "object") (required : Bool)
      {default : Option Json} (isObj : ∀ d ∈ default, d.isObj = true) {o : ObjectSchema}
      (properties : o.properties ≠ some []) (patterns : o.regexNameProperties ≠ some [])
      (names : ∀ s ∈ o.propertyNames, ∃ c, s.kind = .string c)
      (dependencies : o.dependencies ≠ some []) : Node r raw ⟨required, default, .object o⟩
  | combine {raw : RawSchema} (type : Compiler.typeName? raw = some "combine") (required : Bool)
      {default : Option Json} (isSet : default ≠ some .null) {c : CombineSchema}
      (groups : ∀ group ∈ [c.allOf, c.anyOf, c.oneOf], group ≠ some [])
      (declared : ∃ group ∈ [c.allOf, c.anyOf, c.oneOf], group ≠ none) :
      Node r raw ⟨required, default, .combine c⟩
  | ref {raw : RawSchema} (type : Compiler.typeName? raw = some "ref") (required : Bool)
      {default : Option Json} (isSet : default ≠ some .null) {name path : String}
      {target : RawSchema} (nonempty : name ≠ "") (resolved : r.resolve name = some path)
      (found : r.raw? path = some target) (concrete : Compiler.typeName? target ≠ some "ref") :
      Node r raw ⟨required, default, .ref name⟩
  | inlined {raw : RawSchema} (type : Compiler.typeName? raw = some "ref") {name path : String}
      {target : RawSchema} (resolved : r.resolve name = some path)
      (found : r.raw? path = some target) {s : Schema}
      (node : Node r (inherit target (overrides raw)) s) : Node r raw s

/-- Every node of a schema is known to have been compiled from some raw schema. -/
def Built (r : Registry) (s : Schema) : Prop := s.Everywhere fun node => ∃ raw, Node r raw node

/-- A schema compiled from a raw schema, with all its nodes. -/
def Compiled (r : Registry) (raw : RawSchema) (s : Schema) : Prop :=
  Node r raw s ∧ ∀ c ∈ s.children, Built r c

theorem Compiled.built {r : Registry} {raw : RawSchema} {s : Schema} (h : Compiled r raw s) :
    Built r s :=
  Schema.everywhere_iff.2 ⟨⟨raw, h.1⟩, h.2⟩

/-- A schema without children is compiled if its root is. -/
theorem Node.compiled {r : Registry} {raw : RawSchema} {s : Schema} (h : Node r raw s)
    (hs : s.children = []) : Compiled r raw s :=
  ⟨h, fun c hc => by rw [hs] at hc; cases hc⟩

/-- Only a reference compiles to a reference. -/
theorem Node.kind_ne_ref {r : Registry} {raw : RawSchema} {s : Schema} (h : Node r raw s)
    (ht : Compiler.typeName? raw ≠ some "ref") (name : String) : s.kind ≠ .ref name := by
  cases h with
  | ref type | inlined type => exact absurd type ht
  | _ => simp

/-! ## Steps that fields are read by -/

variable {α : Type} {raw : RawSchema}

theorem yields_coerced {field : String} {c : Coerced α} {a : Option α} :
    (coerced field c).Yields a ↔ c.errors = [] ∧ c.value = a := by
  unfold coerced Coerced.hasError Noted.Yields
  cases c.errors <;> simp

theorem yields_checkedDefault {expected : String} {test : Json → Bool} {default : Option Json}
    (h : (checkedDefault raw expected test).Yields default) : ∀ d ∈ default, test d = true := by
  unfold checkedDefault at h
  split at h
  · obtain rfl := Noted.yields_pure.1 h
    simp
  · next value _ =>
    rw [Noted.yields_ite] at h
    split at h
    · next ht =>
      obtain rfl := Noted.yields_pure.1 h
      intro d hd
      exact Option.some.inj hd ▸ ht
    · exact absurd h Noted.not_yields_error_bind

theorem nonEmpty_ne_some_nil (list : List α) : nonEmpty list ≠ some [] := by
  unfold nonEmpty
  cases list <;> simp

theorem getD_nonEmpty (list : List α) : (nonEmpty list).getD [] = list := by
  unfold nonEmpty
  cases list <;> rfl

theorem yields_members {element : Coerce.Reader α} {values : Option (List α)}
    (h : (members raw element).Yields values) : values ≠ some [] := by
  obtain ⟨list, -, h⟩ := Noted.yields_bind.1 h
  obtain rfl := Noted.yields_pure.1 h
  cases list with
  | none => simp
  | some list => exact nonEmpty_ne_some_nil list

theorem yields_knownNames {field : String} {ofName? : String → Option α} {values : Option (List α)}
    (h : (knownNames raw field ofName?).Yields values) : values ≠ some [] := by
  obtain ⟨_, -, h⟩ := Noted.yields_bind.1 h
  obtain ⟨list, -, h⟩ := Noted.yields_bind.1 h
  obtain rfl := Noted.yields_pure.1 h
  exact nonEmpty_ne_some_nil list

/-! ## Scalars -/

variable {r : Registry} {o : Option Schema}

theorem compiled_boolean (ht : Compiler.typeName? raw = some "boolean")
    (h : (boolean raw).Yields o) : ∃ s, o = some s ∧ Compiled r raw s := by
  simp only [boolean, Noted.yields_bind] at h
  obtain ⟨required, -, default, -, h⟩ := h
  exact ⟨_, (Noted.yields_pure.1 h).symm, (Node.boolean ht required default).compiled rfl⟩

theorem value_coerceNull {j : Option Json} (h : (Coerce.null none j).errors = []) :
    ∀ d ∈ (Coerce.null none j).value, d = .null := by
  unfold Coerce.null at h ⊢
  split at h
  · simp [Coerced.of]
  · simp [Coerced.of]
  · simp [Coerced.failed] at h

theorem compiled_null (ht : Compiler.typeName? raw = some "null")
    (h : (null raw).Yields o) : ∃ s, o = some s ∧ Compiled r raw s := by
  simp only [null, Noted.yields_bind] at h
  obtain ⟨required, -, default, hd, h⟩ := h
  obtain ⟨herr, rfl⟩ := yields_coerced.1 hd
  exact ⟨_, (Noted.yields_pure.1 h).symm,
    (Node.null ht required (value_coerceNull herr)).compiled rfl⟩

theorem compiled_number (ht : Compiler.typeName? raw = some "number")
    (h : (number raw).Yields o) : ∃ s, o = some s ∧ Compiled r raw s := by
  simp only [number, Noted.yields_bind] at h
  obtain ⟨required, -, default, -, _, -, _, -, _, -, _, -, members, hm, h⟩ := h
  exact ⟨_, (Noted.yields_pure.1 h).symm,
    (Node.number ht required default (yields_members hm)).compiled rfl⟩

theorem compiled_integer (ht : Compiler.typeName? raw = some "integer")
    (h : (integer raw).Yields o) : ∃ s, o = some s ∧ Compiled r raw s := by
  simp only [integer, Noted.yields_bind] at h
  obtain ⟨required, -, default, -, _, -, _, -, _, -, _, -, members, hm, h⟩ := h
  exact ⟨_, (Noted.yields_pure.1 h).symm,
    (Node.integer ht required default (yields_members hm)).compiled rfl⟩

/-- A greatest length is positive, and no less than the least length. -/
theorem yields_maxLength {least most : Option UInt64} (h : (maxLength raw least).Yields most) :
    ∀ m ∈ most, 1 ≤ m.toNat ∧ ∀ l ∈ least, l ≤ m := by
  obtain ⟨given, -, h⟩ := Noted.yields_bind.1 h
  cases given with
  | none =>
    obtain rfl := Noted.yields_pure.1 h
    simp
  | some n =>
    simp only [Noted.yields_ite] at h
    split at h
    · exact absurd h Noted.not_yields_error_bind
    · next hn =>
      have hword : 1 ≤ (word n).toNat := by
        have h0 : 0 < n.toInt := by simpa [Int64.le_iff_toInt_le] using hn
        have hlt := n.toInt_lt
        simp only [word, UInt64.toNat_ofNat']
        omega
      cases least with
      | none =>
        obtain rfl := Noted.yields_pure.1 h
        simpa using hword
      | some least =>
        simp only [Noted.yields_ite] at h
        split at h
        · exact absurd h Noted.not_yields_error_bind
        · next hle =>
          obtain rfl := Noted.yields_pure.1 h
          simpa using ⟨hword, UInt64.not_lt.1 hle⟩

theorem compiled_string (ht : Compiler.typeName? raw = some "string")
    (h : (string raw).Yields o) : ∃ s, o = some s ∧ Compiled r raw s := by
  simp only [string, Noted.yields_bind] at h
  obtain ⟨required, -, default, -, pattern, -, members, hm, least, -, most, hmost, format, hf,
    transform, htr, h⟩ := h
  have hlen := yields_maxLength hmost
  exact ⟨_, (Noted.yields_pure.1 h).symm,
    (Node.string ht required default (yields_members hm) (yields_knownNames hf)
      (yields_knownNames htr) (fun m hm => (hlen m hm).1)
      (fun m hm => (hlen m hm).2)).compiled rfl⟩

end DataSchema.Compile
