import DataSchema.Yaml.Node

/-!
# Reading YAML

A text holds one document. Aliases are replaced by the nodes they name, and scalars by what they
stand for; the keys of a mapping have to differ. Collections nest up to a limit, and so many aliases
are replaced at most, so an alias within the node that it names is an error.
-/

namespace DataSchema.Yaml

/-- How many collections may be nested. -/
def nestingLimit : Nat := 128

/-- A step that may replace a number of aliases. -/
abbrev Expanding := StateT Nat Option

/-- The node that an alias names, or the node itself. -/
def target (root : Node) : Node → Expanding Node
  | .alias number => do
    match ← get with
    | 0 => failure
    | left + 1 =>
      set left
      match root.withNumber? number with
      | some node => return node
      | none => failure
  | node => return node

/-- A value with a tag of the document's own; other tags of collections mean nothing. -/
def withTag (tag : Option String) (value : Yaml) : Yaml :=
  match tag.bind ownTag? with
  | some name => .tagged name value
  | none => value

mutual

/-- The value of a node, with so many collections within each other. -/
def expand (root : Node) : Nat → Node → Expanding Yaml
  | 0, node => do
    match ← target root node with
    | .scalar _ tag plain text => liftM (ofScalar? tag plain text)
    | _ => failure
  | depth + 1, node => do
    match ← target root node with
    | .alias _ => failure
    | .scalar _ tag plain text => liftM (ofScalar? tag plain text)
    | .sequence _ tag items => return withTag tag (.seq (← expandItems root depth items))
    | .mapping _ tag entries => return withTag tag (.map (← expandEntries root depth entries []))
termination_by depth => (depth, 0, 0)

def expandItems (root : Node) : Nat → List Node → Expanding (List Yaml)
  | _, [] => return []
  | depth, item :: rest => do
    let value ← expand root depth item
    return value :: (← expandItems root depth rest)
termination_by depth items => (depth, 1, items.length)

/-- Adds the values of entries, whose keys have to be new. -/
def expandEntries (root : Node) :
    Nat → List (Node × Node) → List (Yaml × Yaml) → Expanding (List (Yaml × Yaml))
  | _, [], entries => return entries
  | depth, (k, v) :: rest, entries => do
    let key ← expand root depth k
    if entries.any fun e => e.1.same key then failure
    let value ← expand root depth v
    expandEntries root depth rest (entries ++ [(key, value)])
termination_by depth rest => (depth, 1, rest.length)

end

/-- The value of a text, if it is YAML; a text without document is null. -/
def read? (text : String) : Option Yaml := do
  match ← Node.ofTokens? (← Token.ofText? text) with
  | none => return .null
  | some root => (expand root nestingLimit root).run' (100 * root.events)

end DataSchema.Yaml
