import DataSchema.Yaml.Cursor
import DataSchema.Yaml.Scalar

/-!
# The text of scalars

Scalars are written plain, between single or double quotes, or as a block. Lines of a scalar are
folded: a single line break between two of them is a space, and of several breaks the first one
goes. Literal blocks keep their lines.

Each function takes up a scalar at a cursor and gives its text, with the cursor after it; `none` is
a text that is no scalar.
-/

namespace DataSchema.Yaml

/-! ## Folding -/

/-- White space within a scalar. -/
structure Gap where
  /-- Blanks, if they stay within a line. -/
  blanks : List Char
  /-- The first line break. -/
  first : List Char
  /-- The other line breaks. -/
  more : List Char
  /-- Whether the line is left. -/
  broken : Bool

namespace Gap

def empty : Gap := { blanks := [], first := [], more := [], broken := false }

/-- The gap after an escaped line break. -/
def escaped : Gap := { empty with broken := true }

/-- A gap with one more line break. -/
def withBreak (g : Gap) (text : List Char) : Gap :=
  if g.broken then { g with more := g.more ++ text }
  else { blanks := [], first := text, more := [], broken := true }

/-- A gap with one more blank, which counts within a line only. -/
def withBlank (g : Gap) (char : Char) : Gap :=
  if g.broken then g else { g with blanks := g.blanks ++ [char] }

/-- What a gap stands for. -/
def text (g : Gap) : List Char :=
  if !g.broken then g.blanks
  else if g.first = ['\n'] then if g.more = [] then [' '] else g.more
  else g.first ++ g.more

end Gap

/-- Takes up white space. A tab before a column, on a line after the first, is an error. -/
def gap? (tabColumn : Nat) (c : Cursor) (g : Gap) : Option (Gap × Cursor) :=
  match _seen : c.peek 0 with
  | none => some (g, c)
  | some char =>
    if isBlank char then
      if g.broken && char = '\t' && c.column < tabColumn then none
      else gap? tabColumn c.skip (g.withBlank char)
    else if isBreak char then gap? tabColumn c.skipLine (g.withBreak c.breakText)
    else some (g, c)
termination_by c.rest.length
decreasing_by
  · exact Cursor.length_skip ‹_›
  · exact Cursor.length_skipLine ‹_›

/-! ## Plain scalars -/

/-- The indicators that end a plain scalar within brackets and braces. -/
def flowIndicators : List Char := [',', '[', ']', '\x7b', '\x7d']

/-- A part of a plain scalar without white space. Within brackets and braces the indicators of
these end it, and a colon may not stand before one. -/
def plainPart? (flow : Bool) (c : Cursor) (taken : List Char) : Option (List Char × Cursor) :=
  match _seen : c.peek 0 with
  | none => some (taken, c)
  | some char =>
    if isBlank char || isBreak char then some (taken, c)
    else if flow && char = ':' && (c.peek 1).any (· ∈ '?' :: flowIndicators) then none
    else if char = ':' && c.seesSpace 1 then some (taken, c)
    else if flow && char ∈ flowIndicators then some (taken, c)
    else plainPart? flow c.skip (taken ++ [char])
termination_by c.rest.length
decreasing_by exact Cursor.length_skip ‹_›

/-- A plain scalar, which continues on lines that are indented enough. Also tells whether it ends
after a line break. -/
def plain? (flow : Bool) (indent : Nat) :
    Nat → Cursor → Gap → List Char → Option (List Char × Bool × Cursor)
  | 0, _, _, _ => none
  | fuel + 1, c, g, taken =>
    if c.atDocumentMark || c.sees '#' 0 then some (taken, g.broken, c)
    else do
      let (part, after) ← plainPart? flow c []
      let (taken, g) := if part = [] then (taken, g) else (taken ++ g.text ++ part, Gap.empty)
      if !after.seesSpace 0 || (after.peek 0).isNone then some (taken, g.broken, after)
      else
        let (g, next) ← gap? indent after g
        if !flow && next.column < indent then some (taken, g.broken, next)
        else plain? flow indent fuel next g taken

/-! ## Quoted scalars -/

/-- What a letter after a backslash stands for. -/
def escapes : List (Char × Char) :=
  [('0', '\x00'), ('a', '\x07'), ('b', '\x08'), ('t', '\t'), ('\t', '\t'), ('n', '\n'),
   ('v', '\x0b'), ('f', '\x0c'), ('r', '\r'), ('e', '\x1b'), (' ', ' '), ('"', '"'), ('/', '/'),
   ('\\', '\\'), ('N', '\u0085'), ('_', '\u00a0'), ('L', '\u2028'), ('P', '\u2029')]

/-- The digits in the code that a letter after a backslash announces. -/
def codeLengths : List (Char × Nat) := [('x', 2), ('u', 4), ('U', 8)]

/-- The character with a code, unless it is a surrogate or too large. -/
def charOfCode? (code : Nat) : Option Char :=
  if h : code.isValidChar then some (Char.ofNatAux code h) else none

/-- The character of an escape, and the length of the escape after its backslash. -/
def escape? : List Char → Option (Char × Nat)
  | [] => none
  | letter :: rest =>
    match escapes.lookup letter, codeLengths.lookup letter with
    | some char, _ => some (char, 1)
    | none, some length =>
      if rest.length < length then none
      else do
        let char ← charOfCode? (← readDigits? 16 (rest.take length))
        return (char, length + 1)
    | none, none => none

/-- A part of a quoted scalar without white space, except for escaped white space. Tells too
whether it ends with an escaped line break. -/
def quotedPart? (single : Bool) :
    Nat → Cursor → List Char → Option (List Char × Bool × Cursor)
  | 0, _, _ => none
  | fuel + 1, c, taken =>
    match c.peek 0 with
    | none => some (taken, false, c)
    | some char =>
      if isBlank char || isBreak char then some (taken, false, c)
      else if single then
        if char = '\'' then
          if c.sees '\'' 1 then quotedPart? single fuel (c.skipMany 2) (taken ++ [char])
          else some (taken, false, c)
        else quotedPart? single fuel c.skip (taken ++ [char])
      else if char = '"' then some (taken, false, c)
      else if char = '\\' then
        if (c.peek 1).any isBreak then some (taken, true, c.skip.skipLine)
        else do
          let (char, length) ← escape? c.rest.tail
          quotedPart? single fuel (c.skipMany (length + 1)) (taken ++ [char])
      else quotedPart? single fuel c.skip (taken ++ [char])

/-- What is left of a quoted scalar, up to the quote that ends it. -/
def quotedRest? (single : Bool) : Nat → Cursor → List Char → Option (List Char × Cursor)
  | 0, _, _ => none
  | fuel + 1, c, taken =>
    if c.atDocumentMark || (c.peek 0).isNone then none
    else do
      let (part, escapedBreak, after) ← quotedPart? single (c.rest.length + 1) c []
      let taken := taken ++ part
      if after.sees (if single then '\'' else '"') 0 then some (taken, after.skip)
      else
        let (g, next) ← gap? 0 after (if escapedBreak then .escaped else .empty)
        quotedRest? single fuel next (taken ++ g.text)

/-- A scalar between quotes. -/
def quoted? (single : Bool) (c : Cursor) : Option (List Char × Cursor) :=
  quotedRest? single (c.rest.length + 1) c.skip []

/-! ## Blocks -/

/-- What becomes of the line breaks at the end of a block. -/
inductive Chomping where
  | strip
  | clip
  | keep
deriving DecidableEq

/-- The head of a block: how it is chomped, and its indentation if that is given. -/
structure BlockHead where
  chomping : Chomping
  indent : Option Nat

def chomping? : Option Char → Option Chomping
  | some '+' => some .keep
  | some '-' => some .strip
  | _ => none

/-- The digit of an indentation. -/
def indentDigit? (char : Option Char) : Option Nat :=
  char.bind fun c => if c.isDigit then some (digitValue c) else none

/-- The two indicators of a block, which stand in any order. -/
def blockHead (c : Cursor) : BlockHead × Cursor :=
  match chomping? (c.peek 0), indentDigit? (c.peek 0) with
  | some chomping, _ => match indentDigit? (c.peek 1) with
    | some n => (⟨chomping, some n⟩, c.skipMany 2)
    | none => (⟨chomping, none⟩, c.skip)
  | none, some n => match chomping? (c.peek 1) with
    | some chomping => (⟨chomping, some n⟩, c.skipMany 2)
    | none => (⟨.clip, some n⟩, c.skip)
  | none, none => (⟨.clip, none⟩, c)

/-- Whether a column is short of an indentation, which may not be known yet. -/
def before (column : Nat) (indent : Option Nat) : Bool := indent.all (column < ·)

/-- Takes up indentation and empty lines. Gives the line breaks and the widest indentation. -/
def blockBreaks? (indent : Option Nat) (c : Cursor) (widest : Nat) (breaks : List Char) :
    Option (List Char × Nat × Cursor) :=
  match _seen : c.peek 0 with
  | none => some (breaks, max widest c.column, c)
  | some char =>
    if char = ' ' && before c.column indent then blockBreaks? indent c.skip widest breaks
    else if char = '\t' && before c.column indent then none
    else if isBreak char then
      blockBreaks? indent c.skipLine (max widest c.column) (breaks ++ c.breakText)
    else some (breaks, max widest c.column, c)
termination_by c.rest.length
decreasing_by
  · exact Cursor.length_skip ‹_›
  · exact Cursor.length_skipLine ‹_›

/-- The lines of a block so far. -/
structure BlockText where
  text : List Char
  /-- The break after the last line. -/
  lastBreak : List Char
  /-- The breaks of empty lines after it. -/
  breaks : List Char
  /-- Whether the last line begins with a blank. -/
  startsBlank : Bool

/-- Adds a line. Folding joins two lines if neither begins with a blank. -/
def BlockText.withLine (b : BlockText) (literal startsBlank : Bool) (line : List Char) :
    BlockText :=
  let join :=
    if !literal && b.lastBreak = ['\n'] && !b.startsBlank && !startsBlank then
      if b.breaks = [] then [' '] else []
    else b.lastBreak
  { text := b.text ++ join ++ b.breaks ++ line, lastBreak := [], breaks := [], startsBlank }

/-- The lines of a block with an indentation. -/
def blockLines? (literal : Bool) (indent : Nat) :
    Nat → Cursor → BlockText → Option (BlockText × Cursor)
  | 0, _, _ => none
  | fuel + 1, c, b =>
    if c.column ≠ indent || (c.peek 0).isNone then some (b, c)
    else do
      let (line, after) := c.takeWhile fun char => !isBreak char
      let b := b.withLine literal ((c.peek 0).any isBlank) line
      let (lastBreak, next) :=
        if (after.peek 0).isNone then ([], after) else (after.breakText, after.skipLine)
      let (breaks, _, next) ← blockBreaks? (some indent) next 0 []
      blockLines? literal indent fuel next { b with lastBreak, breaks }

/-- A block within a collection of the given indentation. -/
def block? (literal : Bool) (parent : Int) (c : Cursor) : Option (List Char × Cursor) := do
  let (head, c) := blockHead c.skip
  if head.indent = some 0 then none
  let c ← c.finishLine?
  let given := head.indent.map fun n => if 0 ≤ parent then parent.toNat + n else n
  let (breaks, widest, c) ← blockBreaks? given c 0 []
  let indent := given.getD (max widest (max (parent + 1).toNat 1))
  let (b, c) ← blockLines? literal indent (c.rest.length + 1) c
    { text := [], lastBreak := [], breaks, startsBlank := false }
  let text := match head.chomping with
    | .strip => b.text
    | .clip => b.text ++ b.lastBreak
    | .keep => b.text ++ b.lastBreak ++ b.breaks
  return (text, c)

end DataSchema.Yaml
