/-!
# Tables of characters

A table is a list of closed ranges of code points. Tables of a standard are written as text: words
in hexadecimal, of which `41` is one code point and `41-5A` a range. A run `41-5A>61` maps each
character of a range to its place in a second one that starts at the last number; with `/2` after
the range only every second character counts.
-/

namespace DataSchema.Unicode

/-- Closed ranges of code points. -/
abbrev Table := List (Nat × Nat)

/-- The rows of a list between separators. -/
def splitAt (separates : Char → Bool) (text : List Char) : List (List Char) :=
  text.foldr
    (fun c rows => match rows with
      | [] => if separates c then [[], []] else [[c]]
      | row :: rest => if separates c then [] :: row :: rest else (c :: row) :: rest)
    [[]]

/-- The words of a text. -/
def wordsOf (text : String) : List (List Char) :=
  (splitAt (fun c => c = ' ' || c = '\n') text.toList).filter (· ≠ [])

def hexDigitValue (c : Char) : Nat :=
  if c.isDigit then c.toNat - '0'.toNat else c.toNat - 'A'.toNat + 10

/-- The number written by hexadecimal digits. -/
def hexNumber (digits : List Char) : Nat := digits.foldl (fun n c => 16 * n + hexDigitValue c) 0

/-- A code point, or two with a hyphen between them. -/
def rangeOfWord (word : List Char) : Nat × Nat :=
  match splitAt (· = '-') word with
  | [lo, hi] => (hexNumber lo, hexNumber hi)
  | _ => (hexNumber word, hexNumber word)

def Table.ofText (text : String) : Table := (wordsOf text).map rangeOfWord

def Table.contains (table : Table) (c : Char) : Bool :=
  table.any fun (lo, hi) => lo ≤ c.toNat && c.toNat ≤ hi

/-- Every `step`-th character from `first` to `last`, mapped to the character at the same distance
from `target`. -/
structure Run where
  first : Nat
  last : Nat
  step : Nat
  target : Nat

/-- The image of a code point under a run, if the run has the code point. -/
def Run.image? (r : Run) (n : Nat) : Option Nat :=
  if r.first ≤ n ∧ n ≤ r.last ∧ (n - r.first) % r.step = 0 then some (r.target + (n - r.first))
  else none

/-- The code point with a given image under a run, if the run has it. -/
def Run.preimage? (r : Run) (n : Nat) : Option Nat :=
  Run.image? ⟨r.target, r.target + (r.last - r.first), r.step, r.first⟩ n

/-- The code points of a run with their images. -/
def Run.pairs (r : Run) : List (Nat × Nat) :=
  (List.range ((r.last - r.first) / r.step + 1)).map fun k =>
    (r.first + k * r.step, r.target + k * r.step)

/-- The code points of a run. -/
def Run.domain (r : Run) : Table := r.pairs.map fun (c, _) => (c, c)

def Run.ofWord (word : List Char) : Run :=
  match splitAt (· = '>') word with
  | [range, target] => match splitAt (· = '/') range with
    | [range, step] =>
      let (lo, hi) := rangeOfWord range
      ⟨lo, hi, hexNumber step, hexNumber target⟩
    | _ =>
      let (lo, hi) := rangeOfWord range
      ⟨lo, hi, 1, hexNumber target⟩
  | _ => ⟨0, 0, 1, 0⟩

def Run.listOfText (text : String) : List Run := (wordsOf text).map Run.ofWord

/-- Groups of code points, one word each, with commas between the members. -/
def groupsOfText (text : String) : List (List Nat) :=
  (wordsOf text).map fun word => (splitAt (· = ',') word).map hexNumber

/-- Code points with a group each, one word each: `DF>53,53`. -/
def longOfText (text : String) : List (Nat × List Nat) :=
  (wordsOf text).map fun word => match splitAt (· = '>') word with
    | [c, group] => (hexNumber c, (splitAt (· = ',') group).map hexNumber)
    | _ => (0, [])

end DataSchema.Unicode
