import DataSchema.Compile.Basic

/-!
# Compiling schemas of arrays and objects

A property of an object is compiled like any schema. Its name is a pattern if its `nameType` says
so. A property that `requiredProperties` lists is required unless it says otherwise, and the list
is brought in line with what the compiled properties say.
-/

namespace DataSchema.Compile

open Step

/-! ## Arrays -/

/-- The schema of the elements, which has to be there. -/
def items (ctx : Context) (raw : RawSchema) : Compiling (Option Schema) :=
  match raw.get? "items" with
  | none | some .null => do
    noteError (.of "items" "items is required, but got (undefined).")
    return none
  | some items => attach "items" (ctx.compile items) none

def array (ctx : Context) (raw : RawSchema) : Compiling (Option Schema) := do
  let required ← required raw
  let unique ← flag raw "unique" false
  let default ← checkedDefault raw "an array" Json.isArr
  match ← items ctx raw with
  | none => return none
  | some items => return some { required, default, kind := .array items unique }

/-! ## Objects -/

/-- Properties compiled so far, and the names of those that are required. -/
structure PropertyTable where
  required : List String
  named : Dict Schema
  patterns : List (Pattern × Schema)

/-- The list of required names after a property was compiled: a required property joins the list,
and one that is not leaves it. -/
def reconciled (required : List String) (name : String) (isRequired : Bool) : List String :=
  if isRequired then
    if required.contains name then required else required ++ [name]
  else required.erase name

/-- An error on a property. -/
def notePropertyError (name reason : String) : Compiling Unit :=
  noteError ((Diagnostic.of "properties" reason).withProperty name)

/-- Enters a compiled property under its name or as a pattern. -/
def enter (table : PropertyTable) (name : String) (nameType : Option Json) (schema : Schema) :
    Compiling PropertyTable := do
  let kind := Coerce.string (some "string") nameType
  if kind.hasError then
    notePropertyError name ("nameType is invalid of (" ++ name ++ "): " ++ kind.errorSummary)
    return table
  match kind.value with
  | some "regex" => match Pattern.ofSource name with
    | .ok pattern => return { table with patterns := table.patterns ++ [(pattern, schema)] }
    | .error e =>
      notePropertyError name ("propertyName (" ++ name ++ ") is not a valid regex: " ++ e.message)
      return table
  | some "string" | none => return { table with named := table.named.insert name schema }
  | some other =>
    notePropertyError name
      ("nameType of (" ++ name ++ ") is unknown: nameType(" ++ other ++ ")")
    return table

/-- Compiles a property and enters it. -/
def property (ctx : Context) (table : PropertyTable) (name : String) (raw : Json) :
    Compiling PropertyTable := do
  match normalize raw with
  | .error d =>
    noteError (((Diagnostic.of "properties" d.reason).withProperty name).withTraces [d])
    return table
  | .ok fields =>
    let fields :=
      if table.required.contains name then inherit [("required", .bool true)] fields else fields
    match ← attach "properties" (ctx.nested fields) (some name) with
    | none => return table
    | some schema =>
      let table := { table with required := reconciled table.required name schema.required }
      enter table name (fields.get? "nameType") schema

/-- Compiles the properties one after the other. -/
def propertyList (ctx : Context) : PropertyTable → List (String × Json) → Compiling PropertyTable
  | table, [] => return table
  | table, (name, raw) :: rest => do
    propertyList ctx (← property ctx table name raw) rest

def properties (ctx : Context) (raw : RawSchema) (required : List String) :
    Compiling PropertyTable :=
  let table : PropertyTable := { required, named := [], patterns := [] }
  match raw.get? "properties" with
  | none | some .null => return table
  | some (.obj fields) => propertyList ctx table fields
  | some other => do
    noteError (.of "properties"
      ("properties must be an object, but got (" ++ Json.shown (some other) ++ ")."))
    return table

/-- The schema of the names of additional properties, which has to be one of texts. -/
def propertyNames (ctx : Context) (raw : RawSchema) : Compiling (Option Schema) :=
  match Json.present (raw.get? "propertyNames") with
  | none => return none
  | some names => do
    match ← attach "propertyNames" (ctx.compile names) none with
    | none => return none
    | some schema => match schema.kind with
      | .string _ => return some schema
      | _ =>
        noteError (.of "propertyNames"
          ("propertyNames must be a string schema, but got (" ++ schema.typeName ++ ")."))
        return none

/-- The names that each name depends on. -/
def dependencyList : List (String × Json) → Noted (Dict (List String))
  | [] => return []
  | (name, raw) :: rest => do
    let names := Coerce.array Coerce.string none (some raw)
    if names.hasError then
      Noted.error ((Diagnostic.of "dependencies" names.errorSummary).withProperty name)
      dependencyList rest
    else return (name, names.value.getD []) :: (← dependencyList rest)

def dependencies (raw : RawSchema) : Noted (Option (Dict (List String))) :=
  match raw.get? "dependencies" with
  | none | some .null => return none
  | some (.obj fields) => do return nonEmpty (← dependencyList fields)
  | some other => do
    Noted.error (.of "dependencies"
      ("dependencies must be an object, but got (" ++ Json.shown (some other) ++ ")."))
    return none

/-- Additional properties are kept by default if their names are constrained. -/
def object (ctx : Context) (raw : RawSchema) : Compiling (Option Schema) := do
  let required ← required raw
  let silentIgnore ← flag raw "silentIgnore" false
  let default ← checkedDefault raw "an object" Json.isObj
  let listed ← coerced "requiredProperties"
    (Coerce.array Coerce.string (some []) (raw.get? "requiredProperties"))
  let table ← properties ctx raw (listed.getD [])
  let propertyNames ← propertyNames ctx raw
  let dependencies ← dependencies raw
  let allowAdditionalProperties ← flag raw "allowAdditionalProperties" propertyNames.isSome
  return some
    { required
      default
      kind := .object
        { properties := nonEmpty table.named
          regexNameProperties := nonEmpty table.patterns
          propertyNames
          dependencies
          requiredProperties := table.required
          allowAdditionalProperties
          silentIgnore } }

end DataSchema.Compile
