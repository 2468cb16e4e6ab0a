import DataSchema.CharSet

/-!
# Regular expressions

A regular expression is matched by sweeping a set of marks over a text. Marks are Booleans, one for
each place between two characters (and the two ends); sweeping an expression over a set of marks
gives the places where a match that starts at a marked place can end. Sweeping distributes over
marks, so the whole search is one sweep that starts with every place marked, and its cost does not
depend on how many ways there are to match.

More repetitions than the text has places reach nothing new, so every repetition is cut off there.
-/

namespace DataSchema

/-- A condition on a place in the text. -/
inductive Look where
  | textStart
  | textEnd
  /-- The start of a line. With `crlf` a carriage return ends a line too, and both together end it
  once. -/
  | lineStart (crlf : Bool)
  | lineEnd (crlf : Bool)
  | wordBoundary (ascii : Bool)
  | notWordBoundary (ascii : Bool)
  | wordStart (ascii : Bool)
  | wordEnd (ascii : Bool)
  | wordStartHalf (ascii : Bool)
  | wordEndHalf (ascii : Bool)
deriving DecidableEq, Repr

namespace Look

def asciiWord : Unicode.Table := [(0x30, 0x39), (0x41, 0x5A), (0x5F, 0x5F), (0x61, 0x7A)]

/-- Whether the character beside a place, if there is one, belongs to a word. -/
def isWord (ascii : Bool) : Option Char → Bool
  | none => false
  | some c => if ascii then asciiWord.contains c else Unicode.word.contains c

/-- Whether the condition holds between two characters; `none` is an end of the text. -/
def holds : Look → (before after : Option Char) → Bool
  | .textStart, before, _ => before.isNone
  | .textEnd, _, after => after.isNone
  | .lineStart false, before, _ => before.isNone || before == some '\n'
  | .lineStart true, before, after =>
    before.isNone || before == some '\n' || (before == some '\r' && after != some '\n')
  | .lineEnd false, _, after => after.isNone || after == some '\n'
  | .lineEnd true, before, after =>
    after.isNone || after == some '\r' || (after == some '\n' && before != some '\r')
  | .wordBoundary a, before, after => isWord a before != isWord a after
  | .notWordBoundary a, before, after => isWord a before == isWord a after
  | .wordStart a, before, after => !isWord a before && isWord a after
  | .wordEnd a, before, after => isWord a before && !isWord a after
  | .wordStartHalf a, before, _ => !isWord a before
  | .wordEndHalf a, _, after => !isWord a after

end Look

/-- A regular expression. -/
inductive Regex where
  | empty
  | chars (s : CharSet)
  | look (l : Look)
  | concat (r s : Regex)
  | alt (r s : Regex)
  | rep (r : Regex) (least : Nat) (most : Option Nat)
  /-- A group whose place is recorded. It matches what its contents match. -/
  | group (r : Regex)

namespace Regex

/-- One Boolean for each place of a text. -/
abbrev Marks := List Bool

def Marks.union (m n : Marks) : Marks := List.zipWith (· || ·) m n

/-- The characters around each place of a text; `before` is the one before the text. -/
def places (before : Option Char) : List Char → List (Option Char × Option Char)
  | [] => [(before, none)]
  | c :: rest => (before, some c) :: places (some c) rest

/-- Applies a sweep a number of times, or until it changes nothing. -/
def iterate (f : Marks → Marks) : Nat → Marks → Marks
  | 0, m => m
  | n + 1, m => let next := f m; if next = m then m else iterate f n next

/-- Adds the places that a sweep reaches in at most a number of rounds. -/
def reach (f : Marks → Marks) (rounds : Nat) (m : Marks) : Marks :=
  iterate (fun m => m.union (f m)) rounds m

/-- The places where a match that starts at a marked place can end. -/
def sweep (text : List Char) : Regex → Marks → Marks
  | .empty, m => m
  | .chars s, m => false :: List.zipWith (fun c marked => marked && s.contains c) text m
  | .look l, m =>
    List.zipWith (fun place marked => marked && l.holds place.1 place.2) (places none text) m
  | .concat r s, m => s.sweep text (r.sweep text m)
  | .alt r s, m => (r.sweep text m).union (s.sweep text m)
  | .rep r least most, m =>
    let bound := text.length + 2
    let start := iterate (r.sweep text) (min least bound) m
    match most with
    | none => reach (r.sweep text) bound start
    | some most => reach (r.sweep text) (min (most - least) bound) start
  | .group r, m => r.sweep text m

/-- Whether the expression matches somewhere in a text. -/
def isMatch (r : Regex) (text : String) : Bool :=
  let cs := text.toList
  (r.sweep cs (List.replicate (cs.length + 1) true)).any id

/-! ## Building blocks -/

def char (c : Char) : Regex := .chars (.single c)

def concatAll : List Regex → Regex
  | [] => .empty
  | [r] => r
  | r :: rest => .concat r (concatAll rest)

/-- One of the expressions; there is at least one. -/
def altAll : List Regex → Regex
  | [] => .chars .none
  | [r] => r
  | r :: rest => .alt r (altAll rest)

def opt (r : Regex) : Regex := .rep r 0 (some 1)

def star (r : Regex) : Regex := .rep r 0 none

def plus (r : Regex) : Regex := .rep r 1 none

def times (r : Regex) (n : Nat) : Regex := .rep r n (some n)

/-- Expressions in a row that have to match from the start of the text to its end. -/
def whole (rs : List Regex) : Regex := concatAll (.look .textStart :: (rs ++ [.look .textEnd]))

end Regex

end DataSchema
