import DataSchema.Json
import DataSchema.Pattern
import DataSchema.Text

/-!
# Compiled schemas

A schema says what data has to look like: whether it has to be there, what stands in for it if it
is missing, and a kind with the constraints of that kind. A `TopSchema` is a whole schema with the
definitions that its recursive references name.

References to definitions are replaced when a schema is compiled; only a reference into a
definition that contains it stays as a `ref` node, so schemas are finite trees.
`TopSchema.definition?` finds what such a reference names.
-/

namespace DataSchema

/-! ## Constraints of the scalar kinds -/

/-- Bounds and a list of allowed values. -/
structure Bounds (α : Type) where
  minimum : Option α
  maximum : Option α
  exclusiveMinimum : Option α
  exclusiveMaximum : Option α
  /-- The allowed values. -/
  members : Option (List α)
deriving DecidableEq

/-- A format of texts. -/
inductive StringFormat where
  | email
  | ipv4
  | ipv6
deriving DecidableEq, Repr

namespace StringFormat

def all : List StringFormat := [.email, .ipv4, .ipv6]

def name : StringFormat → String
  | .email => "email"
  | .ipv4 => "ipv4"
  | .ipv6 => "ipv6"

/-- The format with a name, in any case. -/
def ofName? (name : String) : Option StringFormat :=
  all.find? fun f => f.name = Text.asciiLower name

end StringFormat

/-- A change made to a text before it is checked. -/
inductive StringTransform where
  | trim
  | lowercase
  | uppercase
  | camelCase
  | littleCamelCase
  | kebabCase
deriving DecidableEq, Repr

namespace StringTransform

def all : List StringTransform :=
  [.trim, .lowercase, .uppercase, .camelCase, .littleCamelCase, .kebabCase]

def name : StringTransform → String
  | .trim => "trim"
  | .lowercase => "lowercase"
  | .uppercase => "uppercase"
  | .camelCase => "camel-case"
  | .littleCamelCase => "little-camel-case"
  | .kebabCase => "kebab-case"

/-- The transform with a name, in any case; underscores count as hyphens. -/
def ofName? (name : String) : Option StringTransform :=
  let name := (Text.asciiLower name).map fun c => if c = '_' then '-' else c
  all.find? fun t => t.name = name

end StringTransform

/-- Constraints of texts; lengths count characters. -/
structure StringSchema where
  minLength : Option UInt64
  maxLength : Option UInt64
  pattern : Option Pattern
  /-- At least one of these has to match. -/
  format : Option (List StringFormat)
  /-- Applied in order, before any check. -/
  transform : Option (List StringTransform)
  /-- The allowed values. -/
  members : Option (List String)
deriving DecidableEq

/-- How the groups of a combination are joined. -/
inductive CombineStrategy where
  | all
  | any
  | one
deriving DecidableEq, Repr

namespace CombineStrategy

def name : CombineStrategy → String
  | .all => "all"
  | .any => "any"
  | .one => "one"

def ofName? (name : String) : Option CombineStrategy :=
  [all, any, one].find? fun s => s.name = name

end CombineStrategy

/-! ## Schemas -/

mutual

/-- What a schema asks of data of its kind. -/
inductive SchemaKind where
  | boolean
  | null
  | number (bounds : Bounds Binary64)
  | integer (bounds : Bounds Int64)
  | string (constraints : StringSchema)
  | array (items : Schema) (unique : Bool)
  | object (constraints : ObjectSchema)
  | combine (groups : CombineSchema)
  /-- A recursive reference, by the path or the id of a definition. -/
  | ref (reference : String)
  /-- A kind that is not built in, with properties of its own. -/
  | custom (typeName : String) (properties : List (String × Json))

/-- Constraints of objects. -/
structure ObjectSchema where
  /-- Properties by name. -/
  properties : Option (List (String × Schema))
  /-- Properties by a pattern for their names. -/
  regexNameProperties : Option (List (Pattern × Schema))
  /-- What the names of additional properties have to satisfy. -/
  propertyNames : Option Schema
  /-- For a property the others that have to be there with it. -/
  dependencies : Option (List (String × List String))
  requiredProperties : List String
  /-- Keep properties that are not declared. -/
  allowAdditionalProperties : Bool
  /-- Drop properties without a warning. -/
  silentIgnore : Bool

/-- Groups of schemas, of which each has a rule of its own. -/
structure CombineSchema where
  strategy : CombineStrategy
  allOf : Option (List Schema)
  anyOf : Option (List Schema)
  oneOf : Option (List Schema)

/-- A schema. -/
structure Schema where
  /-- Whether there has to be data, the default included. -/
  required : Bool
  /-- What stands in for missing data. -/
  default : Option Json
  kind : SchemaKind

end

mutual

/-- How many schemas lie on the longest way into a schema, itself included. -/
def Schema.height : Schema → Nat
  | ⟨_, _, kind⟩ => kind.height + 1

def SchemaKind.height : SchemaKind → Nat
  | .array items _ => items.height
  | .object constraints => constraints.height
  | .combine groups => groups.height
  | _ => 0

def ObjectSchema.height : ObjectSchema → Nat
  | ⟨properties, regexNameProperties, propertyNames, _, _, _, _⟩ =>
    max (heightOfProperties properties)
      (max (heightOfRegexProperties regexNameProperties) (heightOfOption propertyNames))

def CombineSchema.height : CombineSchema → Nat
  | ⟨_, allOf, anyOf, oneOf⟩ =>
    max (heightOfGroup allOf) (max (heightOfGroup anyOf) (heightOfGroup oneOf))

def heightOfOption : Option Schema → Nat
  | none => 0
  | some s => s.height

def heightOfProperties : Option (List (String × Schema)) → Nat
  | none => 0
  | some ps => heightOfPropertyList ps

def heightOfPropertyList : List (String × Schema) → Nat
  | [] => 0
  | (_, s) :: rest => max s.height (heightOfPropertyList rest)

def heightOfRegexProperties : Option (List (Pattern × Schema)) → Nat
  | none => 0
  | some ps => heightOfRegexPropertyList ps

def heightOfRegexPropertyList : List (Pattern × Schema) → Nat
  | [] => 0
  | (_, s) :: rest => max s.height (heightOfRegexPropertyList rest)

def heightOfGroup : Option (List Schema) → Nat
  | none => 0
  | some ss => heightOfSchemas ss

def heightOfSchemas : List Schema → Nat
  | [] => 0
  | s :: rest => max s.height (heightOfSchemas rest)

end

/-- A definition, which references name by its path or by its id. -/
structure DefinitionSchema where
  id : Option String
  schema : Schema

/-- A whole schema: its body, its own id, and its definitions by name. -/
structure TopSchema where
  id : Option String
  definitions : Dict DefinitionSchema
  schema : Schema

def SchemaKind.typeName : SchemaKind → String
  | .boolean => "boolean"
  | .null => "null"
  | .number _ => "number"
  | .integer _ => "integer"
  | .string _ => "string"
  | .array _ _ => "array"
  | .object _ => "object"
  | .combine _ => "combine"
  | .ref _ => "ref"
  | .custom typeName _ => typeName

namespace Schema

/-- The name under which the type of the schema is looked up. -/
def typeName (s : Schema) : String := s.kind.typeName

/-- An optional schema of a kind, without default. -/
def ofKind (kind : SchemaKind) : Schema := { required := false, default := none, kind }

instance : Inhabited Schema := ⟨ofKind .null⟩

end Schema

namespace TopSchema

/-- A schema without definitions. -/
def ofSchema (schema : Schema) : TopSchema := { id := none, definitions := [], schema }

/-- What follows a prefix of a text. -/
def afterPrefix? (lead text : String) : Option String :=
  if lead.toList.isPrefixOf text.toList then
    some (String.ofList (text.toList.drop lead.toList.length))
  else none

/-- What a reference names: the definition at a path, else the first one with an id, else the top
schema by its own id. -/
def definition? (top : TopSchema) (reference pathPrefix : String) : Option Schema :=
  match (afterPrefix? pathPrefix reference).bind fun name => top.definitions.get? name with
  | some d => some d.schema
  | none => match top.definitions.find? fun e => e.2.id = some reference with
    | some (_, d) => some d.schema
    | none => if top.id = some reference then some top.schema else none

end TopSchema

/-- What paths of definitions start with, unless options say otherwise. -/
def defaultDefinitionPrefix : String := "#/definitions/"

end DataSchema
