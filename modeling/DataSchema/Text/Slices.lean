import DataSchema.Text.Words

/-!
# Words as slices of a text

The words of a text are found in place: the search goes over the bytes of the text in UTF-8, and a
word is a slice of the text between two places among them. Words are of ASCII letters and digits,
so a byte is judged as the character of its code, and the bytes of other characters separate words.
The search comes to places inside such characters, where no slice may begin or end.

There is no answer if bytes behind the end are asked for, or a slice whose ends are out of order or
not between two characters; nor if the search has not ended after the rounds it is given.
-/

namespace DataSchema

namespace Text

/-- The bytes of a text in UTF-8. -/
def bytes (s : String) : List UInt8 := s.toByteArray.data.toList

/-- The length of the longest row of bytes of a kind from a place on. -/
def runLengthAt? (test : Char → Bool) (bytes : List UInt8) (place : Nat) : Option Nat :=
  if place ≤ bytes.length then
    some ((bytes.drop place).takeWhile fun b => test (.ofUInt8 b)).length
  else none

/-- The length of the acronym at a place, if one starts there; `upper` is the length of the row of
capitals at the place. -/
def acronymLengthAt? (bytes : List UInt8) (place upper : Nat) : Option Nat :=
  if upper < 2 then none
  else match bytes[place + upper]? with
    | none => some upper
    | some b =>
      if !isIdentifierChar (.ofUInt8 b) then some upper
      else if (Char.ofUInt8 b).isLower && 2 < upper then some (upper - 1)
      else none

/-- The length of the word at a place, if one starts there. -/
def wordLengthAt? (bytes : List UInt8) (place : Nat) : Option (Option Nat) := do
  let upper ← runLengthAt? Char.isUpper bytes place
  match acronymLengthAt? bytes place upper with
  | some n => return some n
  | none =>
    let head := min 1 upper
    let lower ← runLengthAt? Char.isLower bytes (place + head)
    if 0 < lower then
      let digits ← runLengthAt? Char.isDigit bytes (place + head + lower)
      return some (head + lower + digits)
    else if 0 < head then return some 1
    else
      let digits ← runLengthAt? Char.isDigit bytes place
      return if 0 < digits then some digits else none

/-- The slice of a text between two places among its bytes. -/
def slice? (s : String) (start stop : Nat) : Option String.Slice := do
  s.slice? (← s.pos? ⟨start⟩) (← s.pos? ⟨stop⟩)

/-- One round of the search: the word that starts at a place, if there is one, and the place at
which the next round begins. -/
def wordSliceAt? (s : String) (place : Nat) : Option (Option String.Slice × Nat) := do
  match ← wordLengthAt? (bytes s) place with
  | some n => return (some (← slice? s place (place + n)), place + n)
  | none => return (none, place + 1)

/-- The words of a text from a place on, if the search ends within a number of rounds. -/
def wordSlicesWithin (s : String) : (rounds place : Nat) → Option (List String.Slice)
  | 0, place => if place < (bytes s).length then none else some []
  | rounds + 1, place =>
    if place < (bytes s).length then do
      let (word?, next) ← wordSliceAt? s place
      return word?.toList ++ (← wordSlicesWithin s rounds next)
    else some []

end Text

end DataSchema
