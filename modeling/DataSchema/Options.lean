import DataSchema.Binary64.Reading
import DataSchema.Json.Decoding
import DataSchema.Schema

/-!
# Options

The configuration of a whole engine, the part of it that compilers use and the part that validators
use. A configuration is read from JSON, where it is an object or a row of its fields, or from
variables of the environment.
-/

namespace DataSchema

/-- How raw schemas are held while they are compiled. -/
inductive CopyMode where
  | shallow
  | deep
deriving DecidableEq, Repr

namespace CopyMode

def all : List CopyMode := [.shallow, .deep]

def name : CopyMode → String
  | .shallow => "shallow"
  | .deep => "deep"

/-- The mode with a name, in any case. -/
def ofName? (name : String) : Option CopyMode := all.find? fun m => m.name = Text.asciiLower name

/-- The mode for a reader who debugs. -/
def shown : CopyMode → String
  | .shallow => "Shallow"
  | .deep => "Deep"

end CopyMode

structure CompilerOptions where
  copyMode : CopyMode := .shallow
  definitionPathPrefix : String := defaultDefinitionPrefix
deriving DecidableEq

structure ValidatorOptions where
  /-- How many references may be followed at one time. -/
  maxRefDepth : UInt64 := 64
  definitionPathPrefix : String := defaultDefinitionPrefix
deriving DecidableEq

structure Config where
  copyMode : CopyMode := .shallow
  definitionPathPrefix : String := defaultDefinitionPrefix
  maxRefDepth : UInt64 := 64
deriving DecidableEq

/-- A variable of the environment whose value cannot be used. -/
structure ConfigError where
  variableName : String
  value : String

def ConfigError.message (e : ConfigError) : String :=
  "invalid value for " ++ e.variableName ++ ": " ++ Text.quoted e.value

namespace CompilerOptions

def toJson (o : CompilerOptions) : Json :=
  .obj [("copyMode", .str o.copyMode.name), ("definitionPathPrefix", .str o.definitionPathPrefix)]

/-- The options on one line, for a reader who debugs. -/
def shown (o : CompilerOptions) : String :=
  "CompilerOptions \x7b copy_mode: " ++ o.copyMode.shown ++ ", definition_path_prefix: " ++
    Text.quoted o.definitionPathPrefix ++ " \x7d"

end CompilerOptions

namespace ValidatorOptions

def toJson (o : ValidatorOptions) : Json :=
  .obj [("definitionPathPrefix", .str o.definitionPathPrefix),
    ("maxRefDepth", .ofUInt64 o.maxRefDepth)]

def shown (o : ValidatorOptions) : String :=
  "ValidatorOptions \x7b max_ref_depth: " ++ toString o.maxRefDepth ++
    ", definition_path_prefix: " ++ Text.quoted o.definitionPathPrefix ++ " \x7d"

end ValidatorOptions

namespace Config

def compilerOptions (c : Config) : CompilerOptions :=
  { copyMode := c.copyMode, definitionPathPrefix := c.definitionPathPrefix }

def validatorOptions (c : Config) : ValidatorOptions :=
  { maxRefDepth := c.maxRefDepth, definitionPathPrefix := c.definitionPathPrefix }

def toJson (c : Config) : Json :=
  .obj [("copyMode", .str c.copyMode.name), ("definitionPathPrefix", .str c.definitionPathPrefix),
    ("maxRefDepth", .ofUInt64 c.maxRefDepth)]

/-- The configuration on one line, for a reader who debugs. -/
def shown (c : Config) : String :=
  "MasterConfig \x7b copy_mode: " ++ c.copyMode.shown ++ ", definition_path_prefix: " ++
    Text.quoted c.definitionPathPrefix ++ ", max_ref_depth: " ++ toString c.maxRefDepth ++ " \x7d"

def ofParts (mode : Option CopyMode) (pathPrefix : Option String) (depth : Option UInt64) :
    Config :=
  let standard : Config := {}
  { copyMode := mode.getD standard.copyMode
    definitionPathPrefix := pathPrefix.getD standard.definitionPathPrefix
    maxRefDepth := depth.getD standard.maxRefDepth }

/-- A configuration in JSON; what is missing takes the standard value. -/
def decode : Decoder Config := fun j =>
  let mode : Decoder CopyMode := Decoder.oneOf CopyMode.all CopyMode.name
  match j with
  | .obj fields => do
    let mode ← Decoder.field? mode fields "copyMode"
    let pathPrefix ← Decoder.field? Decoder.text fields "definitionPathPrefix"
    let depth ← Decoder.field? Decoder.count fields "maxRefDepth"
    return ofParts mode pathPrefix depth
  | .arr items => do
    let mode ← Decoder.element? mode items 0
    let pathPrefix ← Decoder.element? Decoder.text items 1
    let depth ← Decoder.element? Decoder.count items 2
    if 3 < items.length then throw (Decoder.tooMany items.length)
    return ofParts mode pathPrefix depth
  | j => .error (Decoder.wrongType j "struct MasterConfig")

/-- A count in decimal digits; a plus sign may precede them. -/
def readCount? (text : List Char) : Option UInt64 :=
  let digits := match text with
    | '+' :: rest => rest
    | text => text
  if digits.isEmpty || !digits.all Char.isDigit then none
  else
    let n := natOfDigits digits
    if n < UInt64.size then some (UInt64.ofNat n) else none

def copyModeVariable : String := "DSCHEMA_COPY_MODE"

def prefixVariable : String := "DSCHEMA_DEFINITION_PREFIX"

def depthVariable : String := "DSCHEMA_MAX_REF_DEPTH"

/-- The configuration of an environment; a variable that is not set leaves the standard value. -/
def ofEnvironment (lookUp : String → Option String) : Except ConfigError Config := do
  let read {α : Type} (name : String) (parse : String → Option α) :
      Except ConfigError (Option α) :=
    match lookUp name with
    | none => .ok none
    | some value => match parse value with
      | some a => .ok (some a)
      | none => .error ⟨name, value⟩
  let mode ← read copyModeVariable fun s => CopyMode.ofName? (Text.trim s)
  let pathPrefix ← read prefixVariable fun s => if s = "" then none else some s
  let depth ← read depthVariable fun s => readCount? (Text.trimChars s.toList)
  return ofParts mode pathPrefix depth

end Config

end DataSchema
