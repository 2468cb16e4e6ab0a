import DataSchema.Compiler
import DataSchema.Validator

/-!
# The engine

An engine compiles schemas and validates data with one configuration. It starts with all built-in
types.
-/

namespace DataSchema

/-- A compiler and a validator that share a configuration. -/
structure Engine where
  config : Config
  compiler : Compiler
  validator : Validator

namespace Engine

/-- An engine with the built-in types. -/
def ofConfig (config : Config) : Engine :=
  { config
    compiler := .builtin config.compilerOptions
    validator := .builtin config.validatorOptions }

/-- The engine on one line, for a reader who debugs. -/
def shown (e : Engine) : String :=
  "SchemaMaster \x7b config: " ++ e.config.shown ++ ", compiler: " ++ e.compiler.shown ++
    ", validator: " ++ e.validator.shown ++ " \x7d"

def compile (e : Engine) (raw : Json) : Outcome TopSchema := e.compiler.compile raw

def validate (e : Engine) (top : TopSchema) (data : Option Json) : Outcome Json :=
  e.validator.validate top data

/-- Compiles a schema and, if that gives no error, validates data against it. What the compiler
says is reported under the constraint `schema`. -/
def compileAndValidate (e : Engine) (raw : Json) (data : Option Json) : Outcome Json :=
  let compiled := e.compile raw
  let outcome : Outcome Json := Outcome.empty.attach "schema" compiled none none
  if compiled.hasError then outcome
  else match compiled.value? with
    | none => outcome.addError (.of "schema" "schema compiled to nothing.")
    | some top =>
      let validated := e.validate top data
      let outcome := outcome.merge validated
      match validated.value? with
      | none => outcome
      | some value => outcome.setValue value

end Engine

end DataSchema
