import DataSchema.Json.Reading
import DataSchema.Text
import DataSchema.Yaml.Conversion
import DataSchema.Yaml.Reading

/-!
# Sources of schemas and data

Schemas and data are written in JSON or in YAML. The extension of a file's name says in which; the
file itself is read by whoever loads it.
-/

namespace DataSchema

inductive SourceFormat where
  | json
  | yaml
deriving DecidableEq, Repr

/-- Why a source cannot be loaded. -/
inductive LoadError where
  /-- The file cannot be read. -/
  | file (path : String)
  | unsupportedFormat (path : String)
  | json
  | yaml
  /-- The source is YAML without JSON form. -/
  | conversion (e : ConversionError)
deriving DecidableEq, Repr

def LoadError.message : LoadError → String
  | .file path => "failed to read " ++ path
  | .unsupportedFormat path => "unsupported file extension: " ++ path
  | .json => "invalid JSON"
  | .yaml => "invalid YAML"
  | .conversion e => "YAML value has no JSON equivalent: " ++ e.message

namespace Source

/-- The last step of a path that names a file. -/
def fileName? (path : String) : Option (List Char) :=
  let steps := (Unicode.splitAt (· = '/') path.toList).filter fun s => s ≠ [] && s ≠ ['.']
  match steps.getLast? with
  | some ['.', '.'] => none
  | step => step

/-- What follows the last point of a name, unless that point comes first. -/
def extension? (name : List Char) : Option (List Char) :=
  let (reversed, rest) := name.reverse.span (· ≠ '.')
  match rest with
  | _ :: _ :: _ => some reversed.reverse
  | _ => none

end Source

namespace SourceFormat

/-- The format with an extension, in any case. -/
def ofExtension? (extension : String) : Option SourceFormat :=
  match Text.asciiLower extension with
  | "json" => some .json
  | "yaml" | "yml" => some .yaml
  | _ => none

/-- The format that the extension of a file's name says. -/
def ofPath? (path : String) : Option SourceFormat := do
  let extension ← Source.extension? (← Source.fileName? path)
  ofExtension? (String.ofList extension)

end SourceFormat

namespace Source

/-- The value that a text in a format stands for. -/
def parse (format : SourceFormat) (text : String) : Except LoadError Json :=
  match format with
  | .json => match Json.read? Json.nestingLimit text with
    | some j => .ok j
    | none => .error .json
  | .yaml => match Yaml.read? text with
    | some y => y.toJson.mapError .conversion
    | none => .error .yaml

/-- Loads a file, whose text is given by a function unless it cannot be read. -/
def load {m : Type → Type} [Monad m] (readText : String → m (Option String)) (path : String) :
    m (Except LoadError Json) := do
  match SourceFormat.ofPath? path with
  | none => return .error (.unsupportedFormat path)
  | some format => match ← readText path with
    | none => return .error (.file path)
    | some text => return parse format text

end Source

end DataSchema
