import DataSchema.Yaml.Token

/-!
# The nodes of a YAML document

Tokens are put together to the tree of a document. Its leaves are scalars and aliases; an alias
names a node by the number of its anchor.

An anchor gets the number of different names that came before it. A name that is used again thus
takes a number that the next new name gets too, and a number belongs to the last node that has it.
-/

namespace DataSchema.Yaml

inductive Node where
  | alias (number : Nat)
  | scalar (number : Option Nat) (tag : Option String) (plain : Bool) (text : String)
  | sequence (number : Option Nat) (tag : Option String) (items : List Node)
  | mapping (number : Option Nat) (tag : Option String) (entries : List (Node × Node))
deriving Inhabited

namespace Node

/-- A scalar that is not written. -/
def missing : Node := .scalar none none true ""

mutual

/-- How many scalars, aliases, and beginnings and ends of collections a node has. -/
def events : Node → Nat
  | .alias _ => 1
  | .scalar _ _ _ _ => 1
  | .sequence _ _ items => eventsOfItems items + 2
  | .mapping _ _ entries => eventsOfEntries entries + 2

def eventsOfItems : List Node → Nat
  | [] => 0
  | n :: rest => n.events + eventsOfItems rest

def eventsOfEntries : List (Node × Node) → Nat
  | [] => 0
  | (k, v) :: rest => k.events + v.events + eventsOfEntries rest

end

mutual

/-- The nodes with a number, in the order of the text. -/
def anchored : Node → List (Nat × Node)
  | .alias _ => []
  | .scalar number tag plain text => (number.map (·, .scalar number tag plain text)).toList
  | .sequence number tag items =>
    (number.map (·, .sequence number tag items)).toList ++ anchoredItems items
  | .mapping number tag entries =>
    (number.map (·, .mapping number tag entries)).toList ++ anchoredEntries entries

def anchoredItems : List Node → List (Nat × Node)
  | [] => []
  | n :: rest => n.anchored ++ anchoredItems rest

def anchoredEntries : List (Node × Node) → List (Nat × Node)
  | [] => []
  | (k, v) :: rest => k.anchored ++ v.anchored ++ anchoredEntries rest

end

/-- The last node with a number. -/
def withNumber? (root : Node) (number : Nat) : Option Node :=
  (root.anchored.reverse.find? fun e => e.1 = number).map (·.2)

end Node

/-! ## Parsing -/

/-- What is left of the tokens, with the handles and the anchors met so far. -/
structure Parse where
  tokens : List Token
  handles : Dict String
  anchors : Dict Nat

abbrev Parsing := StateT Parse Option

namespace Parsing

/-- The next token; there is none at the end of the text. -/
def peek : Parsing (Option Token) := do return (← get).tokens.head?

def drop : Parsing Unit := modify fun p => { p with tokens := p.tokens.tail }

/-- Takes a token, which has to come next. -/
def expect (t : Token) : Parsing Unit := do
  if (← peek) = some t then drop else failure

/-- Takes a token if it comes next. -/
def accept (t : Token) : Parsing Bool := do
  if (← peek) = some t then
    drop
    return true
  else return false

/-- Whether one of some tokens comes next. -/
def sees (ts : List Token) : Parsing Bool := do
  return (← peek).any (· ∈ ts)

/-! ### Properties -/

/-- Numbers a new anchor. -/
def newAnchor (name : String) : Parsing Nat := do
  let p ← get
  let number := p.anchors.length
  set { p with anchors := p.anchors.insert name number }
  return number

def anchor : Parsing (Option Nat) := do
  match ← peek with
  | some (.anchor name) =>
    drop
    return some (← newAnchor name)
  | _ => return none

/-- A tag in full. -/
def tag : Parsing (Option String) := do
  match ← peek with
  | some (.tag handle suffix) =>
    drop
    if handle = "" then return some suffix
    else match (← get).handles.get? handle with
      | some meaning => return some (meaning ++ suffix)
      | none => failure
  | _ => return none

/-- The properties of a node, in either order. -/
def properties : Parsing (Option Nat × Option String) := do
  match ← anchor with
  | some number => return (some number, ← tag)
  | none =>
    let tag ← tag
    return (← anchor, tag)

/-! ### Nodes -/

mutual

/-- A node. A block sequence may stand without indentation where a mapping is around it. -/
def node (block indentless : Bool) : Nat → Parsing Node
  | 0 => failure
  | fuel + 1 => do
    match ← peek with
    | some (.alias name) =>
      drop
      match (← get).anchors.get? name with
      | some number => return .alias number
      | none => failure
    | _ =>
      let (number, tag) ← properties
      match ← peek with
      | some .blockEntry =>
        if indentless then return .sequence number tag (← indentlessItems fuel)
        else empty number tag
      | some (.scalar plain text) =>
        drop
        return .scalar number tag plain text
      | some .flowSequence =>
        drop
        return .sequence number tag (← flowItems true fuel)
      | some .flowMapping =>
        drop
        return .mapping number tag (← flowEntries true fuel)
      | some .blockSequence =>
        if block then
          drop
          return .sequence number tag (← blockItems fuel)
        else empty number tag
      | some .blockMapping =>
        if block then
          drop
          return .mapping number tag (← blockEntries fuel)
        else empty number tag
      | _ => empty number tag

/-- A node that has properties only. -/
def empty (number : Option Nat) (tag : Option String) : Parsing Node :=
  if number.isSome || tag.isSome then return .scalar number tag true "" else failure

/-- A node, unless one of some tokens comes next. -/
def nodeUnless (ends : List Token) (block indentless : Bool) : Nat → Parsing Node
  | 0 => failure
  | fuel + 1 => do
    if ← sees ends then return .missing else node block indentless fuel

def blockItems : Nat → Parsing (List Node)
  | 0 => failure
  | fuel + 1 => do
    if ← accept .blockEntry then
      let item ← nodeUnless [.blockEntry, .blockEnd] true false fuel
      return item :: (← blockItems fuel)
    else
      expect .blockEnd
      return []

def indentlessItems : Nat → Parsing (List Node)
  | 0 => failure
  | fuel + 1 => do
    if ← accept .blockEntry then
      let item ← nodeUnless [.blockEntry, .key, .value, .blockEnd] true false fuel
      return item :: (← indentlessItems fuel)
    else return []

def blockEntries : Nat → Parsing (List (Node × Node))
  | 0 => failure
  | fuel + 1 => do
    if ← accept .key then
      let key ← nodeUnless [.key, .value, .blockEnd] true true fuel
      let value ← if ← accept .value then nodeUnless [.key, .value, .blockEnd] true true fuel
        else pure .missing
      return (key, value) :: (← blockEntries fuel)
    else
      expect .blockEnd
      return []

/-- The items within brackets, after a comma unless they are the first. -/
def flowItems (first : Bool) : Nat → Parsing (List Node)
  | 0 => failure
  | fuel + 1 => do
    if ← accept .flowSequenceEnd then return []
    if !first then expect .flowEntry
    if ← accept .key then
      let pair ← flowPair fuel
      return .mapping none none [pair] :: (← flowItems false fuel)
    else if ← accept .flowSequenceEnd then return []
    else
      let item ← node false false fuel
      return item :: (← flowItems false fuel)

/-- A single entry of a mapping within brackets. A token that ends a key that is not written is
lost. -/
def flowPair : Nat → Parsing (Node × Node)
  | 0 => failure
  | fuel + 1 => do
    let key ← if ← sees [.value, .flowEntry, .flowSequenceEnd] then do
        drop
        pure Node.missing
      else node false false fuel
    let value ← if ← accept .value then nodeUnless [.flowEntry, .flowSequenceEnd] false false fuel
      else pure .missing
    return (key, value)

/-- The entries within braces, after a comma unless they are the first. -/
def flowEntries (first : Bool) : Nat → Parsing (List (Node × Node))
  | 0 => failure
  | fuel + 1 => do
    if ← accept .flowMappingEnd then return []
    if !first then expect .flowEntry
    if ← accept .key then
      let key ← nodeUnless [.value, .flowEntry, .flowMappingEnd] false false fuel
      let value ← if ← accept .value then nodeUnless [.flowEntry, .flowMappingEnd] false false fuel
        else pure .missing
      return (key, value) :: (← flowEntries false fuel)
    else if ← accept .flowMappingEnd then return []
    else
      let key ← node false false fuel
      return (key, .missing) :: (← flowEntries false fuel)

end

/-! ### Documents -/

/-- The handles that every document has. -/
def standardHandles : Dict String := [("!", "!"), ("!!", "tag:yaml.org,2002:")]

/-- Handles with those standard ones that they do not redefine. -/
def withStandard (own : Dict String) : Dict String :=
  standardHandles.foldl (fun hs h => if hs.contains h.1 then hs else hs.insert h.1 h.2) own

/-- Directives: at most one version, which has to be known, and one meaning for a handle. -/
def directives (versioned : Bool) (handles : Dict String) : Nat → Parsing (Dict String)
  | 0 => failure
  | fuel + 1 => do
    match ← peek with
    | some (.version major minor) =>
      drop
      if versioned || major ≠ 1 || (minor ≠ 1 && minor ≠ 2) then failure
      else directives true handles fuel
    | some (.handle name meaning) =>
      drop
      if handles.contains name then failure
      else directives versioned (handles.insert name meaning) fuel
    | _ => return handles

/-- Whether the content of a document is missing. -/
def atContentEnd : Parsing Bool := do
  match ← peek with
  | none | some (.version _ _) | some (.handle _ _) | some .documentStart | some .documentEnd =>
    return true
  | _ => return false

/-- The root of a document. A document without directives need not have a mark at its start. -/
def document (fuel : Nat) : Parsing Node := do
  match ← peek with
  | some (.version _ _) | some (.handle _ _) | some .documentStart =>
    let own ← directives false [] fuel
    modify fun p => { p with handles := withStandard own }
    expect .documentStart
    if ← atContentEnd then return .missing else node true false fuel
  | _ => node true false fuel

/-- Skips marks of the end of a document. -/
def documentEnds : Nat → Parsing Unit
  | 0 => return ()
  | fuel + 1 => do
    if ← accept .documentEnd then documentEnds fuel

/-- The only document of a text; there is none in a text without content. -/
def only (fuel : Nat) : Parsing (Option Node) := do
  if (← peek).isNone then return none
  let root ← document fuel
  documentEnds fuel
  if (← peek).isNone then return some root else failure

end Parsing

/-- The only document of a text, from its tokens. -/
def Node.ofTokens? (tokens : List Token) : Option (Option Node) :=
  ((Parsing.only (4 * tokens.length + 4)).run
    { tokens, handles := Parsing.standardHandles, anchors := [] }).map (·.1)

end DataSchema.Yaml
