import DataSchema.Regex.Property

/-!
# Syntax trees of patterns

The tree of a pattern has its parts as they were written, each with the span of the pattern where it
stands and the modes in force there. A tree says nothing of what names mean: a pattern whose tree is
well formed can still name a class that does not exist.

Trees may be nested `depthLimit` deep; `tooDeep?` finds the first part that lies deeper.
-/

namespace DataSchema.Regex

open Unicode

/-- The modes that a pattern can switch. -/
structure Flags where
  ignoreCase : Bool := false
  multiLine : Bool := false
  dotAll : Bool := false
  swapGreed : Bool := false
  unicode : Bool := true
  crlf : Bool := false
  extended : Bool := false
deriving DecidableEq

/-- A literal character as it was written. -/
structure Literal where
  char : Char
  /-- Written with two hexadecimal digits, and so a byte without Unicode. -/
  byte : Bool
  span : Span
deriving DecidableEq

/-- The classes that a letter after a backslash names. -/
inductive LetterClass where
  | digit
  | space
  | word
deriving DecidableEq

/-- An operation between the sets of a bracketed class. -/
inductive SetOp where
  | inter
  | diff
  | symmDiff
deriving DecidableEq

/-- A class of characters as it was written. -/
inductive SetTree where
  /-- Nothing, where elements of a bracketed class could stand. -/
  | empty (span : Span)
  | literal (l : Literal)
  | range (first last : Literal)
  | letter (c : LetterClass) (negated : Bool) (span : Span)
  | ascii (table : Table) (negated : Bool) (span : Span)
  | named (name : ClassName) (negated : Bool) (span : Span)
  /-- Two elements or more beside each other. -/
  | union (items : List SetTree)
  | op (o : SetOp) (left right : SetTree)
  | bracketed (negated : Bool) (set : SetTree) (span : Span)

/-- A pattern or a part of one as it was written. -/
inductive Tree where
  | empty
  /-- A setting of modes, which matches nothing. -/
  | modes
  | literal (f : Flags) (l : Literal)
  | dot (f : Flags) (span : Span)
  | look (l : Look) (span : Span)
  | set (f : Flags) (s : SetTree)
  | rep (t : Tree) (least : Nat) (most : Option Nat) (span : Span)
  | group (captures : Bool) (t : Tree) (span : Span)
  /-- Two items or more in a row. -/
  | concat (items : List Tree) (span : Span)
  /-- Two branches or more. -/
  | alt (branches : List Tree) (span : Span)

/-- From the start of one span to the end of another. -/
def Span.to (s t : Span) : Span := ⟨s.first, t.last⟩

namespace SetTree

mutual

/-- Where a class stands. -/
def span : SetTree → Span
  | .empty span | .letter _ _ span | .ascii _ _ span | .named _ _ span | .bracketed _ _ span =>
    span
  | .literal l => l.span
  | .range first last => first.span.to last.span
  | .union items => spanOfAll items
  | .op _ left right => left.span.to right.span

/-- From the start of the first class to the end of the last. -/
def spanOfAll : List SetTree → Span
  | [] => ⟨0, 0⟩
  | [s] => s.span
  | s :: rest => s.span.to (spanOfAll rest)

end

/-- The elements of a class beside each other, in the order of the list; `start` is where elements
could stand. -/
def ofItems (start : Nat) : List SetTree → SetTree
  | [] => .empty ⟨start, start⟩
  | [s] => s
  | items => .union items

mutual

/-- The first part of a class that lies deeper than `room` levels. -/
def tooDeep? : (room : Nat) → SetTree → Option Span
  | 0, .union items => some (spanOfAll items)
  | 0, .op o left right => some (SetTree.op o left right).span
  | 0, .bracketed _ _ span => some span
  | room + 1, .union items => anyTooDeep? room items
  | room + 1, .op _ left right => left.tooDeep? room <|> right.tooDeep? room
  | room + 1, .bracketed _ s _ => s.tooDeep? room
  | _, _ => none

def anyTooDeep? : (room : Nat) → List SetTree → Option Span
  | _, [] => none
  | room, s :: rest => s.tooDeep? room <|> anyTooDeep? room rest

end

end SetTree

namespace Tree

/-- Where a part of a pattern stands that a repetition can repeat. -/
def span : Tree → Span
  | .empty | .modes => ⟨0, 0⟩
  | .literal _ l => l.span
  | .set _ s => s.span
  | .dot _ span | .look _ span | .rep _ _ _ span | .group _ _ span | .concat _ span
  | .alt _ span => span

/-- Items in a row, in the order of the list. -/
def ofItems (span : Span) : List Tree → Tree
  | [] => .empty
  | [t] => t
  | items => .concat items span

/-- How deep trees may be nested. -/
def depthLimit : Nat := 250

mutual

/-- The first part of a pattern that lies deeper than `room` levels. -/
def tooDeep? : (room : Nat) → Tree → Option Span
  | room, .set _ s => s.tooDeep? room
  | 0, .rep _ _ _ span | 0, .group _ _ span | 0, .concat _ span | 0, .alt _ span => some span
  | room + 1, .rep t _ _ _ | room + 1, .group _ t _ => t.tooDeep? room
  | room + 1, .concat ts _ | room + 1, .alt ts _ => anyTooDeep? room ts
  | _, _ => none

def anyTooDeep? : (room : Nat) → List Tree → Option Span
  | _, [] => none
  | room, t :: rest => t.tooDeep? room <|> anyTooDeep? room rest

end

end Tree

end DataSchema.Regex
