/-!
# A place in a YAML text

A cursor is a place in a text together with what follows it. Lines end at a line feed, a carriage
return, both together, a next-line character, or one of the two separators of Unicode.

Every step of a cursor makes what follows shorter (`length_skip`, `length_skipLine`), which is why
the loops over a text end.
-/

namespace DataSchema.Yaml

/-- A place in a text. -/
structure Cursor where
  rest : List Char
  /-- How many characters precede the place. -/
  index : Nat
  line : Nat
  column : Nat

def isBlank (c : Char) : Bool := c = ' ' || c = '\t'

def isBreak (c : Char) : Bool := c ∈ ['\n', '\r', '\u0085', '\u2028', '\u2029']

/-- The characters of names of anchors, directives and tag handles. -/
def isNameChar (c : Char) : Bool := c.isAlphanum || c = '_' || c = '-'

namespace Cursor

def start (text : List Char) : Cursor := { rest := text, index := 0, line := 0, column := 0 }

/-- The character at a distance, if the text goes so far. -/
def peek (c : Cursor) (distance : Nat) : Option Char := c.rest[distance]?

/-- Whether a character stands at a distance. -/
def sees (c : Cursor) (char : Char) (distance : Nat) : Bool := c.peek distance == some char

/-- Whether a blank, a line break or the end of the text stands at a distance. -/
def seesSpace (c : Cursor) (distance : Nat) : Bool :=
  (c.peek distance).all fun char => isBlank char || isBreak char

/-- Whether a line break or the end of the text follows. -/
def atLineEnd (c : Cursor) : Bool := (c.peek 0).all isBreak

def skip (c : Cursor) : Cursor :=
  { c with rest := c.rest.tail, index := c.index + 1, column := c.column + 1 }

/-- Skips a number of characters within a line. -/
def skipMany (c : Cursor) (count : Nat) : Cursor :=
  { c with rest := c.rest.drop count, index := c.index + count, column := c.column + count }

/-- The characters of a line break. -/
def breakLength (c : Cursor) : Nat := if c.sees '\r' 0 && c.sees '\n' 1 then 2 else 1

def skipLine (c : Cursor) : Cursor :=
  { rest := c.rest.drop c.breakLength, index := c.index + c.breakLength, line := c.line + 1
    column := 0 }

/-- What a line break stands for in a scalar: a line feed, except for the two separators. -/
def breakText (c : Cursor) : List Char :=
  match c.peek 0 with
  | some '\u2028' => ['\u2028']
  | some '\u2029' => ['\u2029']
  | _ => ['\n']

theorem length_skip {c : Cursor} {char : Char} (h : c.peek 0 = some char) :
    c.skip.rest.length < c.rest.length := by
  cases hr : c.rest with
  | nil => simp [peek, hr] at h
  | cons => simp [skip, hr]

theorem length_skipLine {c : Cursor} {char : Char} (h : c.peek 0 = some char) :
    c.skipLine.rest.length < c.rest.length := by
  have hb : 1 ≤ c.breakLength := by unfold breakLength; split <;> omega
  cases hr : c.rest with
  | nil => simp [peek, hr] at h
  | cons => simp [skipLine, hr]; omega

/-- Skips characters that satisfy a test, and gives them. -/
def takeWhile (c : Cursor) (test : Char → Bool) : List Char × Cursor :=
  let taken := c.rest.takeWhile test
  (taken, c.skipMany taken.length)

def skipWhile (c : Cursor) (test : Char → Bool) : Cursor := (c.takeWhile test).2

/-- Skips a comment, if one follows. -/
def skipComment (c : Cursor) : Cursor :=
  if c.sees '#' 0 then c.skipWhile fun char => !isBreak char else c

/-- Skips blanks, a comment and a line break; nothing else may be on the line. -/
def finishLine? (c : Cursor) : Option Cursor :=
  let c := (c.skipWhile isBlank).skipComment
  match c.peek 0 with
  | none => some c
  | some char => if isBreak char then some c.skipLine else none

/-- Whether the mark of the start or the end of a document follows. -/
def atDocumentMark (c : Cursor) : Bool :=
  c.column = 0 && c.seesSpace 3 &&
    (c.rest.take 3 = ['-', '-', '-'] || c.rest.take 3 = ['.', '.', '.'])

end Cursor

end DataSchema.Yaml
