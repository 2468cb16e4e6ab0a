import DataSchema.Json.Decoding
import DataSchema.Schema

/-!
# The JSON form of schemas

Compiled schemas are written as JSON objects and read back. Here is the form of each built-in kind;
schemas within a schema are written and read by a given function, so that nothing here depends on
which kinds there are.

Reading is lenient: fields that are missing or `null` take their standard values, and unknown
fields are ignored.
-/

namespace DataSchema

/-- Why a JSON value is not the form of a schema, or a schema has no form. -/
inductive FormError where
  | notAnObject (given : String)
  | missingType
  | unknownType (typeName : String)
  | invalidField (typeName field reason : String)
  | invalidPattern (source reason : String)
  /-- Schemas nest beyond a bound on the depth. -/
  | tooDeep
deriving DecidableEq, Repr

def FormError.message : FormError → String
  | .notAnObject given => "expected a schema object, got " ++ given
  | .missingType => "missing or invalid `type` field"
  | .unknownType typeName => "unknown schema type: " ++ typeName
  | .invalidField typeName field reason =>
    "invalid field `" ++ field ++ "` for schema type `" ++ typeName ++ "`: " ++ reason
  | .invalidPattern source reason => "invalid pattern `" ++ source ++ "`: " ++ reason
  | .tooDeep => "schemas nest too deeply"

namespace Form

/-- Writes a schema within a schema. -/
abbrev Writer := Schema → Except FormError Json

/-- Reads a schema within a schema. -/
abbrev Reader := Json → Except FormError Schema

/-! ## What all kinds have in common -/

/-- Type, required flag and default. -/
def base (s : Schema) : Dict Json :=
  let fields : Dict Json := [("required", .bool s.required), ("type", .str s.typeName)]
  match s.default with
  | some d => fields.insert "default" d
  | none => fields

/-- Adds fields; a field that is there already is replaced. -/
def extend (fields more : Dict Json) : Dict Json :=
  more.foldl (fun fields f => fields.insert f.1 f.2) fields

/-- Adds a field if there is a value for it. -/
def addOption (fields : Dict Json) (name : String) (value : Option Json) : Dict Json :=
  match value with
  | some v => fields.insert name v
  | none => fields

/-- The error on a schema of one type that is to be written as one of another. -/
def mismatch (typeName : String) (s : Schema) : FormError :=
  .invalidField typeName "type"
    ("schema of type (" ++ s.typeName ++ ") given to the " ++ typeName ++ " compiler")

/-- A flag, which is false if missing; `complaint` is what is said of another value. -/
def readFlag (typeName field : String) (complaint : Json → String) (json : Dict Json) :
    Except FormError Bool :=
  match json.get? field with
  | none | some .null => .ok false
  | some (.bool b) => .ok b
  | some other => .error (.invalidField typeName field (complaint other))

/-- The required flag and the default, which is none if `null`. -/
def readBase (typeName : String) (json : Dict Json) : Except FormError (Bool × Option Json) := do
  let required ← readFlag typeName "required"
    (fun other => "expected a boolean, got " ++ other.text) json
  return (required, Json.present (json.get? "default"))

/-- Decodes the constraints of a kind. -/
def readConstraints {α : Type} (typeName : String) (decode : Dict Json → Except String α)
    (json : Dict Json) : Except FormError α :=
  (decode json).mapError (.invalidField typeName "constraints")

/-! ## Scalars -/

def writeBoolean (s : Schema) : Except FormError Json :=
  match s.kind with
  | .boolean => .ok (.obj (base s))
  | _ => .error (mismatch "boolean" s)

def readBoolean (json : Dict Json) : Except FormError Schema := do
  let (required, default) ← readBase "boolean" json
  return { required, default, kind := .boolean }

def writeNull (s : Schema) : Except FormError Json :=
  match s.kind with
  | .null => .ok (.obj (base s))
  | _ => .error (mismatch "null" s)

/-- The only default of a null schema is an explicit `null`. -/
def readNull (json : Dict Json) : Except FormError Schema := do
  let (required, _) ← readBase "null" json
  let default := match json.get? "default" with
    | some .null => some Json.null
    | _ => none
  return { required, default, kind := .null }

/-- The fields of bounds, given the form of a number. -/
def boundsFields {α : Type} (form : α → Json) (b : Bounds α) : Dict Json :=
  let fields := addOption [] "minimum" (b.minimum.map form)
  let fields := addOption fields "maximum" (b.maximum.map form)
  let fields := addOption fields "exclusiveMinimum" (b.exclusiveMinimum.map form)
  let fields := addOption fields "exclusiveMaximum" (b.exclusiveMaximum.map form)
  addOption fields "enum" (b.members.map fun values => .arr (values.map form))

def decodeBounds {α : Type} (number : Decoder α) (json : Dict Json) : Except String (Bounds α) := do
  let members ← Decoder.optionalField (Decoder.list number) json "enum"
  let exclusiveMaximum ← Decoder.optionalField number json "exclusiveMaximum"
  let exclusiveMinimum ← Decoder.optionalField number json "exclusiveMinimum"
  let maximum ← Decoder.optionalField number json "maximum"
  let minimum ← Decoder.optionalField number json "minimum"
  return { minimum, maximum, exclusiveMinimum, exclusiveMaximum, members }

def ofFloat (x : Binary64) : Json := .num (.float x)

def writeNumber (s : Schema) : Except FormError Json :=
  match s.kind with
  | .number b => .ok (.obj (extend (base s) (boundsFields ofFloat b)))
  | _ => .error (mismatch "number" s)

def readNumber (json : Dict Json) : Except FormError Schema := do
  let (required, default) ← readBase "number" json
  let bounds ← readConstraints "number" (decodeBounds Decoder.binary64) json
  return { required, default, kind := .number bounds }

def writeInteger (s : Schema) : Except FormError Json :=
  match s.kind with
  | .integer b => .ok (.obj (extend (base s) (boundsFields Json.ofInt64 b)))
  | _ => .error (mismatch "integer" s)

def readInteger (json : Dict Json) : Except FormError Schema := do
  let (required, default) ← readBase "integer" json
  let bounds ← readConstraints "integer" (decodeBounds Decoder.int64) json
  return { required, default, kind := .integer bounds }

/-- A list of texts. -/
def ofTexts (texts : List String) : Json := .arr (texts.map .str)

def stringFields (c : StringSchema) : Dict Json :=
  let fields := addOption [] "minLength" (c.minLength.map Json.ofUInt64)
  let fields := addOption fields "maxLength" (c.maxLength.map Json.ofUInt64)
  let fields := addOption fields "pattern" (c.pattern.map fun p => .str p.source)
  let fields := addOption fields "format" (c.format.map fun fs => ofTexts (fs.map (·.name)))
  let fields := addOption fields "transform" (c.transform.map fun ts => ofTexts (ts.map (·.name)))
  addOption fields "enum" (c.members.map ofTexts)

def decodeString (json : Dict Json) : Except String StringSchema := do
  let members ← Decoder.optionalField (Decoder.list Decoder.text) json "enum"
  let format ← Decoder.optionalField
    (Decoder.list (Decoder.oneOf StringFormat.all StringFormat.name)) json "format"
  let maxLength ← Decoder.optionalField Decoder.count json "maxLength"
  let minLength ← Decoder.optionalField Decoder.count json "minLength"
  let pattern ← Decoder.optionalField Decoder.pattern json "pattern"
  let transform ← Decoder.optionalField
    (Decoder.list (Decoder.oneOf StringTransform.all StringTransform.name)) json "transform"
  return { minLength, maxLength, pattern, format, transform, members }

def writeString (s : Schema) : Except FormError Json :=
  match s.kind with
  | .string c => .ok (.obj (extend (base s) (stringFields c)))
  | _ => .error (mismatch "string" s)

def readString (json : Dict Json) : Except FormError Schema := do
  let (required, default) ← readBase "string" json
  let constraints ← readConstraints "string" decodeString json
  return { required, default, kind := .string constraints }

/-! ## Arrays -/

def writeArray (write : Writer) (s : Schema) : Except FormError Json :=
  match s.kind with
  | .array items unique => do
    let items ← write items
    return .obj (((base s).insert "unique" (.bool unique)).insert "items" items)
  | _ => .error (mismatch "array" s)

def readArray (read : Reader) (json : Dict Json) : Except FormError Schema := do
  let (required, default) ← readBase "array" json
  let unique ← readFlag "array" "unique" (fun _ => "expected a boolean") json
  match json.get? "items" with
  | none => throw (.invalidField "array" "items" "missing")
  | some items => return { required, default, kind := .array (← read items) unique }

/-! ## Objects -/

def writeProperties (write : Writer) (properties : List (String × Schema)) :
    Except FormError Json := do
  return .obj (← properties.mapM fun (name, s) => do return (name, ← write s))

def writePatterns (write : Writer) (properties : List (Pattern × Schema)) :
    Except FormError Json := do
  return .arr (← properties.mapM fun (p, s) => do
    return .obj [("pattern", .str p.source), ("schema", ← write s)])

/-- A field that is written by a step, if there is something to write. -/
def addWritten {α : Type} (fields : Dict Json) (name : String) (value : Option α)
    (write : α → Except FormError Json) : Except FormError (Dict Json) :=
  match value with
  | none => .ok fields
  | some a => do return fields.insert name (← write a)

def writeObject (write : Writer) (s : Schema) : Except FormError Json :=
  match s.kind with
  | .object o => do
    let fields := (base s).insert "silentIgnore" (.bool o.silentIgnore)
    let fields := fields.insert "allowAdditionalProperties" (.bool o.allowAdditionalProperties)
    let fields := fields.insert "requiredProperties" (ofTexts o.requiredProperties)
    let fields ← addWritten fields "properties" o.properties (writeProperties write)
    let fields ← addWritten fields "regexNameProperties" o.regexNameProperties
      (writePatterns write)
    let fields ← addWritten fields "propertyNames" o.propertyNames write
    return .obj (addOption fields "dependencies"
      (o.dependencies.map fun ds => .obj (ds.map fun (name, names) => (name, ofTexts names))))
  | _ => .error (mismatch "object" s)

/-- A field that is decoded, and missing if `null`. -/
def readDecoded {α : Type} (typeName field : String) (d : Decoder α) (json : Dict Json) :
    Except FormError (Option α) :=
  match json.get? field with
  | none | some .null => .ok none
  | some j => (some <$> d j).mapError (.invalidField typeName field)

def readProperties (read : Reader) (json : Dict Json) :
    Except FormError (Option (List (String × Schema))) :=
  match json.get? "properties" with
  | none | some .null => .ok none
  | some (.obj fields) => do return some (← fields.mapM fun (name, j) => do return (name, ← read j))
  | some _ => .error (.invalidField "object" "properties" "expected an object")

/-- A pattern with the schema of the properties that match it. -/
def readPattern (read : Reader) (item : Json) : Except FormError (Pattern × Schema) := do
  let source ← match (item.field? "pattern").bind Json.str? with
    | some source => pure source
    | none => throw (.invalidField "object" "regexNameProperties" "missing pattern")
  let pattern ← (Pattern.ofSource source).mapError fun e => .invalidPattern source e.message
  match item.field? "schema" with
  | some j => return (pattern, ← read j)
  | none => throw (.invalidField "object" "regexNameProperties" "missing schema")

def readPatterns (read : Reader) (json : Dict Json) :
    Except FormError (Option (List (Pattern × Schema))) :=
  match json.get? "regexNameProperties" with
  | none | some .null => .ok none
  | some (.arr items) => do return some (← items.mapM (readPattern read))
  | some _ => .error (.invalidField "object" "regexNameProperties" "expected an array")

def readPropertyNames (read : Reader) (json : Dict Json) : Except FormError (Option Schema) :=
  match json.get? "propertyNames" with
  | none | some .null => .ok none
  | some j => some <$> read j

def readObject (read : Reader) (json : Dict Json) : Except FormError Schema := do
  let (required, default) ← readBase "object" json
  let requiredProperties ← readDecoded "object" "requiredProperties"
    (Decoder.list Decoder.text) json
  let properties ← readProperties read json
  let regexNameProperties ← readPatterns read json
  let propertyNames ← readPropertyNames read json
  let dependencies ← readDecoded "object" "dependencies"
    (Decoder.dict (Decoder.list Decoder.text)) json
  let flag (name : String) := readFlag "object" name (fun _ => "expected a boolean") json
  let allowAdditionalProperties ← flag "allowAdditionalProperties"
  let silentIgnore ← flag "silentIgnore"
  return {
    required
    default
    kind := .object
      { properties
        regexNameProperties
        propertyNames
        dependencies
        requiredProperties := requiredProperties.getD []
        allowAdditionalProperties
        silentIgnore } }

/-! ## Combinations and references -/

def writeGroup (write : Writer) (members : List Schema) : Except FormError Json := do
  return .arr (← members.mapM write)

def writeCombine (write : Writer) (s : Schema) : Except FormError Json :=
  match s.kind with
  | .combine c => do
    let fields := (base s).insert "strategy" (.str c.strategy.name)
    let fields ← addWritten fields "allOf" c.allOf (writeGroup write)
    let fields ← addWritten fields "anyOf" c.anyOf (writeGroup write)
    let fields ← addWritten fields "oneOf" c.oneOf (writeGroup write)
    return .obj fields
  | _ => .error (mismatch "combine" s)

def readStrategy (json : Dict Json) : Except FormError CombineStrategy :=
  match json.get? "strategy" with
  | none | some .null => .ok .all
  | some (.str name) => match CombineStrategy.ofName? name with
    | some s => .ok s
    | none => .error (.invalidField "combine" "strategy" ("unknown strategy " ++ name))
  | some _ => .error (.invalidField "combine" "strategy" "expected a string")

def readGroup (read : Reader) (json : Dict Json) (name : String) :
    Except FormError (Option (List Schema)) :=
  match json.get? name with
  | none | some .null => .ok none
  | some (.arr members) => do return some (← members.mapM read)
  | some _ => .error (.invalidField "combine" name "expected an array")

def readCombine (read : Reader) (json : Dict Json) : Except FormError Schema := do
  let (required, default) ← readBase "combine" json
  let strategy ← readStrategy json
  let allOf ← readGroup read json "allOf"
  let anyOf ← readGroup read json "anyOf"
  let oneOf ← readGroup read json "oneOf"
  return { required, default, kind := .combine { strategy, allOf, anyOf, oneOf } }

def writeReference (s : Schema) : Except FormError Json :=
  match s.kind with
  | .ref name => .ok (.obj ((base s).insert "$ref" (.str name)))
  | _ => .error (mismatch "ref" s)

def readReference (json : Dict Json) : Except FormError Schema := do
  let (required, default) ← readBase "ref" json
  match (json.get? "$ref").bind Json.str? with
  | some name => return { required, default, kind := .ref name }
  | none => throw (.invalidField "ref" "$ref" "expected a string")

end Form

end DataSchema
