import DataSchema.Compile.Combine
import DataSchema.Compile.Container
import DataSchema.Compile.Definition
import DataSchema.Compile.Reference
import DataSchema.Compile.Scalar
import DataSchema.Schema.Form

/-!
# Compilers

A `TypeCompiler` compiles raw schemas of one type and knows the JSON form of what it compiled. A
`Compiler` holds such compilers by the names of their types and dispatches to them; types can be
added to the nine that are built in.

Schemas nest, and references are replaced by definitions, so dispatching recurs. It does so with a
bound on the depth, which `compile`, `write` and `read` compute from what they are given; beyond
the bound the answer is an error of its own.
-/

namespace DataSchema

/-- What one type of schemas needs. -/
structure TypeCompiler where
  compile : Compile.Context → RawSchema → Compile.Run Schema
  /-- Writes the JSON form of a compiled schema. -/
  write : Form.Writer → Schema → Except FormError Json
  /-- Reads the JSON form of a compiled schema. -/
  read : Form.Reader → Dict Json → Except FormError Schema

namespace TypeCompiler

/-- A type whose schemas hold no others. -/
def scalar (compile : RawSchema → Noted (Option Schema)) (write : Schema → Except FormError Json)
    (read : Dict Json → Except FormError Schema) : TypeCompiler :=
  { compile := fun _ raw => .ofNoted (compile raw)
    write := fun _ => write
    read := fun _ => read }

/-- A type whose schemas are compiled together with others. -/
def composite (compile : Compile.Context → RawSchema → Compiling (Option Schema))
    (write : Form.Writer → Schema → Except FormError Json)
    (read : Form.Reader → Dict Json → Except FormError Schema) : TypeCompiler :=
  { compile := fun ctx raw => .ofStep (compile ctx raw), write, read }

/-- The built-in types. -/
def builtin : Dict TypeCompiler :=
  [("array", composite Compile.array Form.writeArray Form.readArray),
   ("boolean", scalar Compile.boolean Form.writeBoolean Form.readBoolean),
   ("combine", composite Compile.combine Form.writeCombine Form.readCombine),
   ("integer", scalar Compile.integer Form.writeInteger Form.readInteger),
   ("null", scalar Compile.null Form.writeNull Form.readNull),
   ("number", scalar Compile.number Form.writeNumber Form.readNumber),
   ("object", composite Compile.object Form.writeObject Form.readObject),
   ("ref", composite Compile.reference (fun _ => Form.writeReference)
     (fun _ => Form.readReference)),
   ("string", scalar Compile.string Form.writeString Form.readString)]

end TypeCompiler

/-- Compilers by the names of their types. -/
structure Compiler where
  types : Dict TypeCompiler
  options : CompilerOptions

namespace Compiler

/-- A compiler without any type. -/
def empty (options : CompilerOptions) : Compiler := { types := [], options }

/-- A compiler with the built-in types. -/
def builtin (options : CompilerOptions) : Compiler := { types := TypeCompiler.builtin, options }

def has (c : Compiler) (typeName : String) : Bool := c.types.contains typeName

/-- Sets the compiler of a type. -/
def replace (c : Compiler) (typeName : String) (t : TypeCompiler) : Compiler :=
  { c with types := c.types.insert typeName t }

/-- Sets the compiler of a type that has none yet. -/
def register (c : Compiler) (typeName : String) (t : TypeCompiler) : Compiler :=
  if c.has typeName then c else c.replace typeName t

/-- The compiler on one line, for a reader who debugs. -/
def shown (c : Compiler) : String :=
  "CompilerMaster \x7b types: [" ++ ", ".intercalate (c.types.keys.map Text.quoted) ++
    "], options: " ++ c.options.shown ++ " \x7d"

/-! ## Compiling -/

/-- The name of the type that the form of a schema gives. -/
def typeName? (fields : Dict Json) : Option String :=
  match fields.get? "type" with
  | some (.str name) => if name = "" then none else some name
  | _ => none

/-- Compiles the fields of a raw schema, with a bound on the depth. -/
def compileWithin (c : Compiler) : Nat → RawSchema → Compile.Run Schema
  | 0, _ => .failed .tooDeep
  | fuel + 1, raw => match typeName? raw with
    | none => .failed (.of "type"
      ("type must be a non-empty string, but got (" ++ Json.shown (raw.get? "type") ++ ")."))
    | some name => match c.types.get? name with
      | none => .failed (.of "type" ("unknown type (" ++ name ++ ")."))
      | some t => t.compile { options := c.options, nested := c.compileWithin fuel } raw

/-- The context of compiling with a bound on the depth. -/
def context (c : Compiler) (fuel : Nat) : Compile.Context :=
  { options := c.options, nested := c.compileWithin fuel }

/-- A bound on the depth to which compiling a raw schema recurs. A definition that is compiled in
place of a reference is not entered again before it is done, so at most as many nest as there are
definitions, and from one to the next the levels of a raw schema are walked down. Neither number is
greater than that of the values in the raw schema. -/
def compileDepth (raw : Json) : Nat := (raw.size + 2) * (raw.size + 2)

/-- Compiles a whole schema. -/
def compile (c : Compiler) (raw : Json) : Outcome TopSchema :=
  (Run.ofStep (Compile.top (c.context (compileDepth raw)) raw) .empty).1

/-- Compiles a schema on its own, without definitions. -/
def compileNode (c : Compiler) (raw : Json) : Outcome Schema :=
  ((c.context (compileDepth raw)).compile raw .empty).1

/-! ## The JSON form -/

/-- Writes a schema that is not higher than a bound. -/
def writeWithin (c : Compiler) : Nat → Form.Writer
  | 0, _ => .error .tooDeep
  | fuel + 1, s => match c.types.get? s.typeName with
    | none => .error (.unknownType s.typeName)
    | some t => t.write (c.writeWithin fuel) s

def write (c : Compiler) (s : Schema) : Except FormError Json := c.writeWithin s.height s

/-- Reads a schema from a value that is not deeper than a bound. -/
def readWithin (c : Compiler) : Nat → Form.Reader
  | 0, _ => .error .tooDeep
  | fuel + 1, json => match json with
    | .obj fields => match typeName? fields with
      | none => .error .missingType
      | some name => match c.types.get? name with
        | none => .error (.unknownType name)
        | some t => t.read (c.readWithin fuel) fields
    | other => .error (.notAnObject (Json.shown (some other)))

def read (c : Compiler) (json : Json) : Except FormError Schema := c.readWithin json.depth json

/-- Writes a schema with an id in its object. -/
def writeWithId (c : Compiler) (id : Option String) (s : Schema) :
    Except FormError (Dict Json) := do
  match ← c.write s with
  | .obj fields => return Form.addOption fields "$id" (id.map .str)
  | other => throw (.notAnObject (Json.shown (some other)))

/-- Writes a whole schema: its body, with its id and its definitions in the same object. -/
def writeTop (c : Compiler) (top : TopSchema) : Except FormError Json := do
  let fields ← c.writeWithId top.id top.schema
  match top.definitions with
  | [] => return .obj fields
  | definitions =>
    let written ← definitions.mapM fun (name, d) => do
      return (name, Json.obj (← c.writeWithId d.id d.schema))
    return .obj (Dict.insert fields "definitions" (.obj written))

/-- The id in the form of a schema. -/
def readId (fields : Dict Json) : Except FormError (Option String) :=
  match fields.get? "$id" with
  | none | some .null => .ok none
  | some (.str id) => .ok (some id)
  | some _ => .error (.invalidField "top" "$id" "expected a string")

def readDefinition (c : Compiler) (json : Json) : Except FormError DefinitionSchema := do
  let id ← match json with
    | .obj fields => readId fields
    | _ => pure none
  return { id, schema := ← c.read json }

def readDefinitions (c : Compiler) (fields : Dict Json) :
    Except FormError (Dict DefinitionSchema) :=
  match fields.get? "definitions" with
  | none | some .null => .ok []
  | some (.obj definitions) => definitions.mapM fun (name, json) => do
    return (name, ← c.readDefinition json)
  | some _ => .error (.invalidField "top" "definitions" "expected an object")

/-- Reads a whole schema. -/
def readTop (c : Compiler) (json : Json) : Except FormError TopSchema :=
  match json with
  | .obj fields => do
    let id ← readId fields
    let definitions ← c.readDefinitions fields
    return { id, definitions, schema := ← c.read json }
  | other => .error (.notAnObject (Json.shown (some other)))

end Compiler

end DataSchema
