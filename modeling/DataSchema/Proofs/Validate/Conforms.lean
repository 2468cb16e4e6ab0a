import DataSchema.Validate.Scalar

/-!
# Data that conforms to a schema

`Conforms top lead s v` says what a value of the schema `s` looks like. It is read off the schema
alone and knows nothing of how data is validated: no defaults are filled in, nothing is read from a
text, and there is no limit on references. Paths of definitions start with `lead`, and a reference
stands for the definition of `top` that it names.

Elements of arrays and entries of objects have relations of their own, since an element may also be
`null` (`ElementConforms`), and since the schema of an entry depends on its key (`EntryConforms`).
The key of an additional property is a text that the schema for names has to accept
(`AcceptsName`); it is kept as it is, so it is the reading of the text that is judged.

Combinations and kinds that are not built in have no values here.
-/

namespace DataSchema

/-! ## Scalars -/

/-- A number keeps to its bounds, and is an allowed value. Numbers are compared by what they
measure. -/
structure Bounds.Hold {α : Type} (b : Bounds α) (measure : α → Int) (n : α) : Prop where
  minimum : ∀ least ∈ b.minimum, measure least ≤ measure n
  maximum : ∀ most ∈ b.maximum, measure n ≤ measure most
  exclusiveMinimum : ∀ least ∈ b.exclusiveMinimum, measure least < measure n
  exclusiveMaximum : ∀ most ∈ b.exclusiveMaximum, measure n < measure most
  members : ∀ values ∈ b.members, values ≠ [] → ∃ m ∈ values, measure m = measure n

/-- A text keeps to its constraints; of several formats it needs to have one. -/
structure StringSchema.Holds (c : StringSchema) (text : String) : Prop where
  minLength : ∀ least ∈ c.minLength, least.toNat ≤ text.length
  maxLength : ∀ most ∈ c.maxLength, text.length ≤ most.toNat
  pattern : ∀ p ∈ c.pattern, p.isMatch text = true
  format : ∀ formats ∈ c.format, formats ≠ [] → ∃ f ∈ formats, f.accepts text = true
  members : ∀ values ∈ c.members, values ≠ [] → text ∈ values

/-- A text after all transforms of a schema. -/
def StringSchema.normalText (c : StringSchema) (text : String) : String :=
  (c.transform.getD []).foldl Validate.transformed text

/-! ## Properties -/

namespace ObjectSchema

/-- No declared property has the name. -/
def Undeclared (o : ObjectSchema) (name : String) : Prop :=
  ∀ p ∈ o.properties.getD [], p.1 ≠ name

/-- No pattern matches the name. -/
def Unmatched (o : ObjectSchema) (name : String) : Prop :=
  ∀ p ∈ o.regexNameProperties.getD [], p.1.isMatch name = false

/-- The schema belongs to the first pattern that matches the name. -/
def FirstMatch (o : ObjectSchema) (name : String) (s : Schema) : Prop :=
  ∃ before p after, o.regexNameProperties.getD [] = before ++ (p, s) :: after ∧
    p.isMatch name = true ∧ ∀ q ∈ before, q.1.isMatch name = false

/-- A property that is there has all it depends on; `null` counts as missing. -/
def DependenciesHold (o : ObjectSchema) (fields : Dict Json) : Prop :=
  ∀ e ∈ o.dependencies.getD [], Json.isAbsent (fields.get? e.1) = false →
    ∀ other ∈ e.2, Json.isAbsent (fields.get? other) = false

end ObjectSchema

/-! ## Values -/

/-- A schema for names accepts a name. -/
inductive AcceptsName (top : TopSchema) (lead : String) : Schema → String → Prop
  | boolean {s : Schema} {name : String} {b : Bool} (kind : s.kind = .boolean)
      (read : Coerce.boolean none (some (.str name)) = .of (some b)) : AcceptsName top lead s name
  | number {s : Schema} {name : String} {bounds : Bounds Binary64} {n : Binary64}
      (kind : s.kind = .number bounds)
      (read : Coerce.number none (some (.str name)) = .of (some n))
      (holds : bounds.Hold Binary64.signedUnits n) : AcceptsName top lead s name
  | integer {s : Schema} {name : String} {bounds : Bounds Int64} {n : Int64}
      (kind : s.kind = .integer bounds)
      (read : Coerce.int64 none (some (.str name)) = .of (some n))
      (holds : bounds.Hold Int64.toInt n) : AcceptsName top lead s name
  | string {s : Schema} {name : String} {c : StringSchema} (kind : s.kind = .string c)
      (holds : c.Holds (c.normalText name)) : AcceptsName top lead s name
  | ref {s target : Schema} {name reference : String} (kind : s.kind = .ref reference)
      (found : top.definition? reference lead = some target)
      (accepts : AcceptsName top lead target name) : AcceptsName top lead s name

mutual

/-- A value conforms to a schema. -/
inductive Conforms (top : TopSchema) (lead : String) : Schema → Json → Prop
  | boolean {s : Schema} (kind : s.kind = .boolean) (b : Bool) : Conforms top lead s (.bool b)
  | null {s : Schema} (kind : s.kind = .null) : Conforms top lead s .null
  | number {s : Schema} {bounds : Bounds Binary64} {n : Binary64} (kind : s.kind = .number bounds)
      (holds : bounds.Hold Binary64.signedUnits n) : Conforms top lead s (.ofBinary64 n)
  | integer {s : Schema} {bounds : Bounds Int64} {n : Int64} (kind : s.kind = .integer bounds)
      (holds : bounds.Hold Int64.toInt n) : Conforms top lead s (.ofInt64 n)
  | string {s : Schema} {c : StringSchema} {text : String} (kind : s.kind = .string c)
      (holds : c.Holds text) : Conforms top lead s (.str text)
  | array {s items : Schema} {unique : Bool} {values : List Json}
      (kind : s.kind = .array items unique)
      (elements : ∀ value ∈ values, ElementConforms top lead items value) :
      Conforms top lead s (.arr values)
  | object {s : Schema} {o : ObjectSchema} {fields : Dict Json} (kind : s.kind = .object o)
      (entries : ∀ e ∈ fields, EntryConforms top lead o e.1 e.2)
      (required : ∀ p ∈ o.properties.getD [], p.2.required = true → fields.contains p.1 = true)
      (dependencies : o.DependenciesHold fields) : Conforms top lead s (.obj fields)
  | ref {s target : Schema} {reference : String} {value : Json} (kind : s.kind = .ref reference)
      (found : top.definition? reference lead = some target)
      (conforms : Conforms top lead target value) : Conforms top lead s value

/-- A value stands in an array of elements of a schema. -/
inductive ElementConforms (top : TopSchema) (lead : String) : Schema → Json → Prop
  | value {items : Schema} {value : Json} (conforms : Conforms top lead items value) :
      ElementConforms top lead items value
  | null {items : Schema} (optional : items.required = false)
      (noDefault : Json.present items.default = none) : ElementConforms top lead items .null

/-- A key and a value stand in an object. -/
inductive EntryConforms (top : TopSchema) (lead : String) : ObjectSchema → String → Json → Prop
  | declared {o : ObjectSchema} {name : String} {s : Schema} {value : Json}
      (mem : (name, s) ∈ o.properties.getD []) (conforms : Conforms top lead s value) :
      EntryConforms top lead o name value
  | matched {o : ObjectSchema} {name : String} {s : Schema} {value : Json}
      (undeclared : o.Undeclared name) (first : o.FirstMatch name s)
      (conforms : Conforms top lead s value) : EntryConforms top lead o name value
  | additional {o : ObjectSchema} {name : String} {value : Json} (undeclared : o.Undeclared name)
      (unmatched : o.Unmatched name) (allowed : o.allowAdditionalProperties = true)
      (names : ∀ s ∈ o.propertyNames, AcceptsName top lead s name) :
      EntryConforms top lead o name value

end

end DataSchema
