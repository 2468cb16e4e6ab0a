import DataSchema.Compile.Basic

/-!
# Compiling combinations

A combination has up to three groups of schemas, `allOf`, `anyOf` and `oneOf`, and a strategy that
joins what they say. At least one group has to have a member.
-/

namespace DataSchema.Compile

open Step

/-- The members of a group that compile. -/
def groupMembers (ctx : Context) (group : String) : Nat → List Json → Compiling (List Schema)
  | _, [] => return []
  | i, raw :: rest => do
    let member ← attach group (ctx.compile raw) (some (toString i))
    return member.toList ++ (← groupMembers ctx group (i + 1) rest)

def group (ctx : Context) (raw : RawSchema) (name : String) : Compiling (Option (List Schema)) :=
  match raw.get? name with
  | none | some .null => return none
  | some (.arr members) => do return nonEmpty (← groupMembers ctx name 0 members)
  | some other => do
    noteError (.of name
      (name ++ " must be an array, but got (" ++ Json.shown (some other) ++ ")."))
    return none

def strategy (raw : RawSchema) : Noted CombineStrategy := do
  let name := (← coerced "strategy" (Coerce.string (some "all") (raw.get? "strategy"))).getD ""
  match CombineStrategy.ofName? name with
  | some s => return s
  | none =>
    Noted.error (.of "strategy"
      ("unknown strategy (" ++ name ++ "), expected one of all, any, one."))
    return .all

/-- Whether a group is an array with a member. -/
def declaresGroup (raw : RawSchema) (name : String) : Bool :=
  match raw.get? name with
  | some (.arr (_ :: _)) => true
  | _ => false

def combine (ctx : Context) (raw : RawSchema) : Compiling (Option Schema) := do
  let required ← required raw
  let strategy ← strategy raw
  let allOf ← group ctx raw "allOf"
  let anyOf ← group ctx raw "anyOf"
  let oneOf ← group ctx raw "oneOf"
  unless ["allOf", "anyOf", "oneOf"].any (declaresGroup raw) do
    noteError (.of "type" "combine schema must declare at least one of allOf, anyOf, oneOf.")
  return some
    { required, default := rawDefault raw, kind := .combine { strategy, allOf, anyOf, oneOf } }

end DataSchema.Compile
