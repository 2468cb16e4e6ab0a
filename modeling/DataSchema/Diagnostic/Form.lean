import DataSchema.Diagnostic
import DataSchema.Json.Decoding

/-!
# The JSON form of diagnostics

A diagnostic is an object, or a row of its four fields. Property and causes may be missing.
-/

namespace DataSchema.Diagnostic

open Decoder

def structureName : String := "Diagnostic"

/-- The error on a diagnostic without a field that it has to have. -/
def require {α : Type} (error : String) : Option α → Except String α
  | some a => .ok a
  | none => .error error

mutual

def decode : Decoder Diagnostic
  | .obj fields => do
    let constraint ← field? text fields "constraint"
    let property ← optionalField text fields "property"
    let reason ← field? text fields "reason"
    let traces ← decodeTraces fields
    let constraint ← require (missingField "constraint") constraint
    let reason ← require (missingField "reason") reason
    return { constraint, property, reason, traces }
  | .arr items => do
    let constraint ← require (tooFew 0 structureName 4) (← element? text items 0)
    let property ← element? (optional text) items 1
    let reason ← require (tooFew 2 structureName 4) (← element? text items 2)
    let traces ← decodeElement 3 items
    if 4 < items.length then throw (tooMany items.length)
    return { constraint, property := property.join, reason, traces }
  | j => .error (wrongType j ("struct " ++ structureName))

/-- The causes among the fields of a diagnostic. -/
def decodeTraces : List (String × Json) → Except String (List Diagnostic)
  | [] => .ok []
  | (name, j) :: rest => if name = "traces" then decodeAll j else decodeTraces rest

/-- The causes at a place of a row. -/
def decodeElement : Nat → List Json → Except String (List Diagnostic)
  | _, [] => .ok []
  | 0, j :: _ => decodeAll j
  | n + 1, _ :: rest => decodeElement n rest

def decodeAll : Decoder (List Diagnostic)
  | .arr items => decodeItems items
  | j => .error (wrongType j "a sequence")

def decodeItems : List Json → Except String (List Diagnostic)
  | [] => .ok []
  | j :: rest => do return (← decode j) :: (← decodeItems rest)

end

/-- A diagnostic as a value; a property that is not set and causes that there are none are left
out. -/
def toJson : Diagnostic → Json
  | ⟨constraint, property, reason, traces⟩ =>
    let fields : Dict Json := [("constraint", .str constraint), ("reason", .str reason)]
    let fields := match property with
      | some p => fields.insert "property" (.str p)
      | none => fields
    match traces with
    | [] => .obj fields
    | trace :: rest => .obj (Dict.insert fields "traces" (.arr (toJsonAll (trace :: rest))))
where
  toJsonAll : List Diagnostic → List Json
    | [] => []
    | d :: rest => d.toJson :: toJsonAll rest

end DataSchema.Diagnostic

namespace DataSchema.FlatDiagnostic

/-- A leaf as a value. -/
def toJson (d : FlatDiagnostic) : Json :=
  let fields : Dict Json := [("constraint", .str d.constraint), ("reason", .str d.reason)]
  match d.property with
  | some p => .obj (fields.insert "property" (.str p))
  | none => .obj fields

end DataSchema.FlatDiagnostic
