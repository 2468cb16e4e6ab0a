import DataSchema.Yaml.Text

/-!
# Tokens of a YAML text

Indentation shows in tokens of its own, which begin and end block collections. A key need not have
an indicator before it: its tokens are there already when the colon is found. So each place where
such a key may start is kept as a *candidate*, one for every open bracket or brace, and the key
token is put in there when the colon comes. A key without indicator stays on one line and within
1024 characters.
-/

namespace DataSchema.Yaml

inductive Token where
  | version (major minor : Nat)
  /-- What a tag handle is short for. -/
  | handle (name meaning : String)
  | documentStart
  | documentEnd
  | blockSequence
  | blockMapping
  | blockEnd
  | flowSequence
  | flowSequenceEnd
  | flowMapping
  | flowMappingEnd
  | blockEntry
  | flowEntry
  | key
  | value
  | alias (name : String)
  | anchor (name : String)
  | tag (handle suffix : String)
  | scalar (plain : Bool) (text : String)
deriving DecidableEq, Repr

/-- A place where a key may start. -/
structure Candidate where
  /-- Whether the key has to be one, because of its column. -/
  required : Bool
  /-- The number of tokens before it. -/
  place : Nat
  index : Nat
  line : Nat
  column : Nat

/-- Tokens found so far, and what decides on the next one. -/
structure Scan where
  cursor : Cursor
  tokens : Array Token
  /-- The column of the innermost block collection; before the first one it is negative. -/
  indent : Int
  /-- The columns of the block collections around it. -/
  indents : List Int
  /-- Whether a key may start here. -/
  keyAllowed : Bool
  /-- The candidate within the innermost bracket. -/
  candidate : Option Candidate
  /-- The candidates within the brackets around it. -/
  outer : List (Option Candidate)

namespace Scan

def start (text : List Char) : Scan :=
  { cursor := .start text, tokens := #[], indent := -1, indents := [], keyAllowed := true
    candidate := none, outer := [] }

/-- Whether brackets or braces are open. -/
def flow (s : Scan) : Bool := !s.outer.isEmpty

def push (s : Scan) (t : Token) : Scan := { s with tokens := s.tokens.push t }

def moved (s : Scan) (cursor : Cursor) : Scan := { s with cursor }

/-! ## Indentation -/

/-- Ends the block collections whose column is greater. -/
def unroll (s : Scan) (column : Int) : Scan :=
  if s.flow then s else go s.indents s
where
  go : List Int → Scan → Scan
    | [], s => s
    | outer :: rest, s =>
      if column < s.indent then go rest { s.push .blockEnd with indent := outer, indents := rest }
      else s

/-- Begins a block collection at a column, unless there is one; its token goes before a place. -/
def roll (s : Scan) (column : Nat) (place : Nat) (t : Token) : Scan :=
  if s.flow || column ≤ s.indent then s
  else
    { s with
      indent := column
      indents := s.indent :: s.indents
      tokens := s.tokens.insertIdxIfInBounds place t }

/-! ## Candidates -/

/-- Whether a key cannot start at a candidate any more. -/
def isStale (s : Scan) (k : Candidate) : Bool :=
  k.line < s.cursor.line || k.index + 1024 < s.cursor.index

/-- Drops a candidate, which is an error if its key has to be one. -/
def dropped? : Option Candidate → Option (Option Candidate)
  | some k => if k.required then none else some none
  | none => some none

def fresh? (s : Scan) (k : Option Candidate) : Option (Option Candidate) :=
  if k.any s.isStale then dropped? k else some k

/-- Drops the candidates at which a key cannot start any more. -/
def dropStale? (s : Scan) : Option Scan := do
  return { s with candidate := ← s.fresh? s.candidate, outer := ← s.outer.mapM s.fresh? }

/-- Drops the candidate within the innermost bracket. -/
def dropCandidate? (s : Scan) : Option Scan := do
  return { s with candidate := ← dropped? s.candidate }

/-- Makes this place a candidate, if a key may start here. -/
def saveCandidate? (s : Scan) : Option Scan :=
  if s.keyAllowed then do
    let s ← s.dropCandidate?
    let c := s.cursor
    return { s with
      candidate := some
        { required := !s.flow && s.indent = c.column, place := s.tokens.size, index := c.index
          line := c.line, column := c.column } }
  else some s

/-! ## White space -/

/-- Skips white space and comments before a token. A tab may not stand where a key may start. -/
def toToken (s : Scan) : Nat → Scan
  | 0 => s
  | fuel + 1 =>
    let blank (char : Char) : Bool := char = ' ' || (char = '\t' && (s.flow || !s.keyAllowed))
    let c := if s.cursor.index = 0 && s.cursor.sees '\ufeff' 0 then s.cursor.skip else s.cursor
    let c := (c.skipWhile blank).skipComment
    match c.peek 0 with
    | none => s.moved c
    | some char =>
      if isBreak char then
        toToken { s with cursor := c.skipLine, keyAllowed := s.keyAllowed || !s.flow } fuel
      else s.moved c

/-! ## Directives -/

/-- A number of at most nine digits. -/
def number? (c : Cursor) : Option (Nat × Cursor) :=
  let (digits, c) := c.takeWhile Char.isDigit
  if digits = [] || 9 < digits.length then none else some (natOfDigits digits, c)

/-- A row of escaped octets that are one character. -/
def escapedChar? (c : Cursor) : Option (Char × Cursor) := do
  let octet? (distance : Nat) : Option Nat :=
    if c.sees '%' distance then
      match c.peek (distance + 1), c.peek (distance + 2) with
      | some high, some low => do return 16 * (← digit? high) + (← digit? low)
      | _, _ => none
    else none
  let tail? (i : Nat) : Option Nat := do
    let octet ← octet? (3 * i)
    if octet / 64 = 2 then return octet % 64 else none
  let first ← octet? 0
  if first < 0x80 then return (Char.ofNat first, c.skipMany 3)
  else if first / 32 = 6 then
    return (Char.ofNat (first % 32 * 64 + (← tail? 1)), c.skipMany 6)
  else if first / 16 = 14 then
    return (Char.ofNat ((first % 16 * 64 + (← tail? 1)) * 64 + (← tail? 2)), c.skipMany 9)
  else if first / 8 = 30 then
    return (Char.ofNat (((first % 8 * 64 + (← tail? 1)) * 64 + (← tail? 2)) * 64 + (← tail? 3)),
      c.skipMany 12)
  else none

/-- The characters of a tag; commas and brackets belong to it only where it is written out. -/
def isTagChar (whole : Bool) (char : Char) : Bool :=
  isNameChar char ||
    char ∈ [';', '/', '?', ':', '@', '&', '=', '+', '$', '.', '%', '!', '~', '*', '\'', '(', ')'] ||
    (whole && char ∈ [',', '[', ']'])

/-- A row of characters of a tag. -/
def tagText? (whole : Bool) : Nat → Cursor → List Char → Option (List Char × Cursor)
  | 0, _, _ => none
  | fuel + 1, c, taken =>
    match c.peek 0 with
    | none => some (taken, c)
    | some char =>
      if char = '%' then do
        let (char, next) ← escapedChar? c
        tagText? whole fuel next (taken ++ [char])
      else if isTagChar whole char then tagText? whole fuel c.skip (taken ++ [char])
      else some (taken, c)

/-- A row of characters of a tag that is not empty. -/
def someTagText? (whole : Bool) (c : Cursor) : Option (List Char × Cursor) := do
  let (text, c) ← tagText? whole (c.rest.length + 1) c []
  if text = [] then none else return (text, c)

/-- A mark, name characters, and a second mark if there is one. -/
def handle (c : Cursor) : List Char × Cursor :=
  let (name, c) := c.skip.takeWhile isNameChar
  if c.sees '!' 0 then ('!' :: name ++ ['!'], c.skip) else ('!' :: name, c)

/-- What follows the name of a directive. -/
def directiveValue? (name : List Char) (c : Cursor) : Option (Token × Cursor) :=
  let c := c.skipWhile isBlank
  if name = ['Y', 'A', 'M', 'L'] then do
    let (major, c) ← number? c
    if !c.sees '.' 0 then none
    let (minor, c) ← number? c.skip
    return (.version major minor, c)
  else if name = ['T', 'A', 'G'] then do
    if !c.sees '!' 0 then none
    let (name, c) := handle c
    if name ≠ ['!'] && name.getLast? ≠ some '!' then none
    if !(c.peek 0).any isBlank then none
    let (meaning, c) ← someTagText? true (c.skipWhile isBlank)
    if !c.seesSpace 0 then none
    return (.handle (String.ofList name) (String.ofList meaning), c)
  else none

def directive? (s : Scan) : Option Scan := do
  let s ← (s.unroll (-1)).dropCandidate?
  let (name, c) := s.cursor.skip.takeWhile isNameChar
  if name = [] || !c.seesSpace 0 then none
  let (token, c) ← directiveValue? name c
  return { s.push token with cursor := ← c.finishLine?, keyAllowed := false }

/-! ## Indicators -/

def documentMark? (s : Scan) : Option Scan := do
  let s ← (s.unroll (-1)).dropCandidate?
  let token := if s.cursor.sees '-' 0 then Token.documentStart else .documentEnd
  return { s.push token with cursor := s.cursor.skipMany 3, keyAllowed := false }

/-- An opening bracket or brace, which may begin a key. -/
def opening? (s : Scan) (t : Token) : Option Scan := do
  let s ← s.saveCandidate?
  return { s.push t with
    cursor := s.cursor.skip, keyAllowed := true, candidate := none
    outer := s.candidate :: s.outer }

def closing? (s : Scan) (t : Token) : Option Scan := do
  let s ← s.dropCandidate?
  let (candidate, outer) := match s.outer with
    | candidate :: outer => (candidate, outer)
    | [] => (s.candidate, [])
  return { s.push t with cursor := s.cursor.skip, keyAllowed := false, candidate, outer }

def flowEntry? (s : Scan) : Option Scan := do
  let s ← s.dropCandidate?
  return { s.push .flowEntry with cursor := s.cursor.skip, keyAllowed := true }

/-- Begins a block collection here if none begins at this column. -/
def rollHere? (s : Scan) (t : Token) : Option Scan :=
  if s.flow then some s
  else if s.keyAllowed then some (s.roll s.cursor.column s.tokens.size t)
  else none

def blockEntry? (s : Scan) : Option Scan := do
  let s ← (← s.rollHere? .blockSequence).dropCandidate?
  return { s.push .blockEntry with cursor := s.cursor.skip, keyAllowed := true }

def key? (s : Scan) : Option Scan := do
  let s ← (← s.rollHere? .blockMapping).dropCandidate?
  return { s.push .key with cursor := s.cursor.skip, keyAllowed := !s.flow }

/-- A colon. The key before it is at the candidate; without one it has an indicator or is empty. -/
def value? (s : Scan) : Option Scan :=
  match s.candidate with
  | some k =>
    let s := { s with tokens := s.tokens.insertIdxIfInBounds k.place .key, candidate := none }
    let s := s.roll k.column k.place .blockMapping
    some { s.push .value with cursor := s.cursor.skip, keyAllowed := false }
  | none => do
    let s ← s.rollHere? .blockMapping
    return { s.push .value with cursor := s.cursor.skip, keyAllowed := !s.flow }

/-! ## Properties and scalars -/

/-- The indicators that may follow the name of an anchor or an alias. -/
def afterAnchor : List Char := ['?', ':', ',', ']', '\x7d', '%', '@', '\x60']

/-- The name of an anchor or an alias. -/
def anchor? (s : Scan) (token : String → Token) : Option Scan := do
  let s ← s.saveCandidate?
  let (name, c) := s.cursor.skip.takeWhile isNameChar
  if name = [] then none
  if !c.seesSpace 0 && !(c.peek 0).any (· ∈ afterAnchor) then none
  return { s.push (token (String.ofList name)) with cursor := c, keyAllowed := false }

/-- A tag: written out, with a handle, or with the mark alone. -/
def tagToken? (c : Cursor) : Option (Token × Cursor) :=
  if c.sees '<' 1 then do
    let (text, c) ← someTagText? true (c.skipMany 2)
    if !c.sees '>' 0 then none
    return (.tag "" (String.ofList text), c.skip)
  else
    let (name, c) := handle c
    if 1 < name.length && name.getLast? = some '!' then do
      let (text, c) ← someTagText? false c
      return (.tag (String.ofList name) (String.ofList text), c)
    else do
      let (text, c) ← tagText? false (c.rest.length + 1) c name.tail
      if text = [] then return (.tag "" "!", c)
      else return (.tag "!" (String.ofList text), c)

def tag? (s : Scan) : Option Scan := do
  let s ← s.saveCandidate?
  let (token, c) ← tagToken? s.cursor
  if !c.seesSpace 0 && !(s.flow && c.sees ',' 0) then none
  return { s.push token with cursor := c, keyAllowed := false }

def scalar (plain : Bool) (text : List Char) : Token := .scalar plain (String.ofList text)

def block? (s : Scan) (literal : Bool) : Option Scan := do
  let s ← s.dropCandidate?
  let (text, c) ← Yaml.block? literal s.indent s.cursor
  return { s.push (scalar false text) with cursor := c, keyAllowed := true }

def quoted? (s : Scan) (single : Bool) : Option Scan := do
  let s ← s.saveCandidate?
  let (text, c) ← Yaml.quoted? single s.cursor
  return { s.push (scalar false text) with cursor := c, keyAllowed := false }

def plain? (s : Scan) : Option Scan := do
  let s ← s.saveCandidate?
  let c := s.cursor
  let (text, broken, c) ←
    Yaml.plain? s.flow (s.indent + 1).toNat (c.rest.length + 1) c .empty []
  return { s.push (scalar true text) with cursor := c, keyAllowed := broken }

/-! ## All tokens -/

/-- The characters that a plain scalar does not start with. -/
def indicators : List Char :=
  ['-', '?', ':', ',', '[', ']', '\x7b', '\x7d', '#', '&', '*', '!', '|', '>', '\'', '"', '%', '@',
   '\x60']

/-- Whether a plain scalar starts here, before a character. -/
def startsPlain (s : Scan) (char : Char) : Bool :=
  !(char ∈ indicators || isBlank char || isBreak char) ||
    (char = '-' && !(s.cursor.peek 1).any isBlank) ||
    (!s.flow && (char = '?' || char = ':') && !s.cursor.seesSpace 1)

/-- Takes up the token that starts with a character. -/
def token? (s : Scan) (char : Char) : Option Scan :=
  let indicates := s.flow || s.cursor.seesSpace 1
  if s.cursor.column = 0 && char = '%' then s.directive?
  else if s.cursor.atDocumentMark then s.documentMark?
  else match char with
    | '[' => s.opening? .flowSequence
    | '\x7b' => s.opening? .flowMapping
    | ']' => s.closing? .flowSequenceEnd
    | '\x7d' => s.closing? .flowMappingEnd
    | ',' => s.flowEntry?
    | '*' => s.anchor? .alias
    | '&' => s.anchor? .anchor
    | '!' => s.tag?
    | '\'' => s.quoted? true
    | '"' => s.quoted? false
    | '|' => if s.flow then none else s.block? true
    | '>' => if s.flow then none else s.block? false
    | char =>
      if char = '-' && s.cursor.seesSpace 1 then s.blockEntry?
      else if char = '?' && indicates then s.key?
      else if char = ':' && indicates then s.value?
      else if s.startsPlain char then s.plain?
      else none

/-- Ends the text. -/
def finish? (s : Scan) : Option Scan := (s.unroll (-1)).dropCandidate?

/-- All tokens of what is left. -/
def run? : Nat → Scan → Option Scan
  | 0, _ => none
  | fuel + 1, s => do
    let s ← (s.toToken (s.cursor.rest.length + 1)).dropStale?
    let s := s.unroll s.cursor.column
    match s.cursor.peek 0 with
    | none => s.finish?
    | some char => run? fuel (← s.token? char)

end Scan

/-- The characters that a text may have. -/
def isTextChar (c : Char) : Bool :=
  let n := c.toNat
  n = 0x09 || n = 0x0A || n = 0x0D || (0x20 ≤ n && n ≤ 0x7E) || n = 0x85 ||
    (0xA0 ≤ n && n ≤ 0xFFFD) || 0x10000 ≤ n

/-- The tokens of a text. -/
def Token.ofText? (text : String) : Option (List Token) :=
  let cs := text.toList
  if cs.all isTextChar then
    (Scan.run? (cs.length + 1) (.start cs)).map fun s => s.tokens.toList
  else none

end DataSchema.Yaml
