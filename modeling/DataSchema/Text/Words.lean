/-!
# Words of an identifier

A text is split into words at changes of case, at digits and at everything that is no ASCII letter
or digit: `XMLHttpRequest2go` has the words `XML`, `Http`, `Request2` and `go`. A row of capitals
is one word at the end of an identifier, and without its last letter before a capitalised word.

The words are put together again in three styles: `kebabCase`, `camelCase` and `littleCamelCase`.
-/

namespace DataSchema

namespace Text

/-- The length of the longest row at the head of a text whose characters satisfy a test. -/
def runLength (test : Char → Bool) (text : List Char) : Nat := (text.takeWhile test).length

/-- The characters that an identifier continues with. -/
def isIdentifierChar (c : Char) : Bool := c.isAlphanum || c = '_'

/-- The length of the row of capitals at the head of a text, if it is a word of its own: at least
two capitals before the end of an identifier, or three before a small letter, where the last of
them begins the next word. -/
def acronymLength? (text : List Char) : Option Nat :=
  let upper := runLength Char.isUpper text
  if upper < 2 then none
  else match (text.drop upper).head? with
    | none => some upper
    | some c =>
      if !isIdentifierChar c then some upper
      else if c.isLower && 2 < upper then some (upper - 1)
      else none

/-- The length of the word at the head of a text; zero if none starts there. -/
def wordLength (text : List Char) : Nat :=
  match acronymLength? text with
  | some n => n
  | none =>
    let head := min 1 (runLength Char.isUpper text)
    let lower := runLength Char.isLower (text.drop head)
    if 0 < lower then head + lower + runLength Char.isDigit (text.drop (head + lower))
    else if 0 < head then 1
    else runLength Char.isDigit text

/-- The words of a text, in order. -/
def words : List Char → List (List Char)
  | [] => []
  | c :: rest =>
    match wordLength (c :: rest) with
    | 0 => words rest
    | n + 1 => (c :: rest.take n) :: words (rest.drop n)
termination_by text => text.length
decreasing_by all_goals simp only [List.length_cons, List.length_drop]; omega

def lowerWord (word : List Char) : List Char := word.map Char.toLower

/-- A word with its first letter in upper case and the others in lower case. -/
def capitalizedWord (word : List Char) : List Char :=
  match lowerWord word with
  | [] => []
  | c :: rest => c.toUpper :: rest

def kebabChars (text : List Char) : List Char :=
  ['-'].intercalate ((words text).map lowerWord)

def camelChars (text : List Char) : List Char := (words text).flatMap capitalizedWord

def littleCamelChars (text : List Char) : List Char :=
  match words text with
  | [] => []
  | word :: rest => lowerWord word ++ rest.flatMap capitalizedWord

/-- Small words with hyphens between them: `foo-bar-baz`. -/
def kebabCase (s : String) : String := String.ofList (kebabChars s.toList)

/-- Capitalised words in a row: `FooBarBaz`. -/
def camelCase (s : String) : String := String.ofList (camelChars s.toList)

/-- Capitalised words in a row, the first one small: `fooBarBaz`. -/
def littleCamelCase (s : String) : String := String.ofList (littleCamelChars s.toList)

end Text

end DataSchema
