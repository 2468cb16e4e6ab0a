import DataSchema.Unicode.Case

/-!
# Sets of characters

Sets of characters are put together from tables of ranges. `contains` says what a set has; the
operations are those that classes of characters are written with.
-/

namespace DataSchema

/-- A set of characters. -/
inductive CharSet where
  | ranges (table : Unicode.Table)
  | compl (s : CharSet)
  | union (s t : CharSet)
  | inter (s t : CharSet)
  /-- The characters that differ from one of the set in case at most; only in the case of an ASCII
  letter when `ascii` holds. -/
  | foldCase (ascii : Bool) (s : CharSet)

namespace CharSet

def contains : CharSet → Char → Bool
  | .ranges table, c => table.contains c
  | .compl s, c => !s.contains c
  | .union s t, c => s.contains c || t.contains c
  | .inter s t, c => s.contains c && t.contains c
  | .foldCase ascii s, c =>
    s.contains c ||
      (if ascii then Unicode.asciiCaseVariants c else Unicode.caseVariants c).any s.contains

def none : CharSet := .ranges []

/-- Every character. -/
def everything : CharSet := .ranges [(0, 0x10FFFF)]

def single (c : Char) : CharSet := .ranges [(c.toNat, c.toNat)]

def range (first last : Char) : CharSet := .ranges [(first.toNat, last.toNat)]

def diff (s t : CharSet) : CharSet := .inter s (.compl t)

def symmDiff (s t : CharSet) : CharSet := .union (s.diff t) (t.diff s)

/-- The characters of any of some sets. -/
def anyOf : List CharSet → CharSet
  | [] => .none
  | s :: rest => .union s (anyOf rest)

/-- The complement where `negated` holds, and otherwise the set itself. -/
def negateIf (negated : Bool) (s : CharSet) : CharSet := if negated then .compl s else s

theorem contains_anyOf (sets : List CharSet) (c : Char) :
    (anyOf sets).contains c = sets.any (·.contains c) := by
  induction sets with
  | nil => rfl
  | cons s rest ih => rw [anyOf, contains, ih, List.any_cons]

end CharSet

end DataSchema
