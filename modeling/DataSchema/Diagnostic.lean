/-!
# Diagnostics

A diagnostic names the constraint that was broken and says why. It may belong to a property, and it
may have causes, which are diagnostics themselves. Flattening a diagnostic gives its leaves, each
with the properties on the way to it joined by points.
-/

namespace DataSchema

/-- An error or a warning. -/
structure Diagnostic where
  /-- The constraint that was broken. -/
  constraint : String
  /-- The step from the value that is reported on to the part that broke it. -/
  property : Option String
  reason : String
  /-- The causes. -/
  traces : List Diagnostic
deriving Inhabited

/-- A leaf of a diagnostic, with the whole path to it. -/
structure FlatDiagnostic where
  constraint : String
  property : Option String
  reason : String
deriving DecidableEq, Repr, Inhabited

namespace Diagnostic

/-- A diagnostic without property and causes. -/
def of (constraint reason : String) : Diagnostic :=
  { constraint, property := none, reason, traces := [] }

def withProperty (d : Diagnostic) (property : String) : Diagnostic :=
  { d with property := some property }

def withTraces (d : Diagnostic) (traces : List Diagnostic) : Diagnostic := { d with traces }

/-- The error on schemas that nest beyond a bound on the depth. -/
def tooDeep : Diagnostic := .of "type" "schemas nest too deeply."

/-- A path with one more step; an absent or empty step adds nothing. -/
def joinPath (path step : Option String) : Option String :=
  match path, step with
  | path, none | path, some "" => path
  | none, some step => some step
  | some path, some step => some (path ++ "." ++ step)

mutual

/-- The leaves below a path. -/
def flattenUnder (path : Option String) : Diagnostic → List FlatDiagnostic
  | ⟨constraint, property, reason, traces⟩ =>
    match traces with
    | [] => [⟨constraint, joinPath path property, reason⟩]
    | trace :: rest => flattenAllUnder (joinPath path property) (trace :: rest)

/-- The leaves of several diagnostics below a path, in order. -/
def flattenAllUnder (path : Option String) : List Diagnostic → List FlatDiagnostic
  | [] => []
  | d :: rest => flattenUnder path d ++ flattenAllUnder path rest

end

mutual

/-- Whether two diagnostics are the same, causes included. -/
def same : Diagnostic → Diagnostic → Bool
  | ⟨c, p, r, ts⟩, ⟨c', p', r', ts'⟩ => c == c' && p == p' && r == r' && sameAll ts ts'

def sameAll : List Diagnostic → List Diagnostic → Bool
  | [], [] => true
  | d :: rest, d' :: rest' => d.same d' && sameAll rest rest'
  | _, _ => false

end

/-- The leaves of several diagnostics, in order. -/
def flattenAll (ds : List Diagnostic) : List FlatDiagnostic := flattenAllUnder none ds

/-- Constraint and reason of each diagnostic, between brackets. -/
def summary (ds : List Diagnostic) : String :=
  "[" ++ ",\n".intercalate (ds.map fun d => d.constraint ++ ": " ++ d.reason) ++ "]"

/-- A diagnostic on one line. -/
def line (d : Diagnostic) : String :=
  match d.property with
  | some p => d.constraint ++ "(" ++ p ++ "): " ++ d.reason
  | none => d.constraint ++ ": " ++ d.reason

end Diagnostic

/-- A leaf on one line, indented below its path. -/
def FlatDiagnostic.line (d : FlatDiagnostic) : String :=
  "  " ++ d.property.getD "(root)" ++ ": [" ++ d.constraint ++ "] " ++ d.reason

end DataSchema
