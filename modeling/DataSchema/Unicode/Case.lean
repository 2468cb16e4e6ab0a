import DataSchema.Unicode.CaseTable
import DataSchema.Unicode.Property

/-!
# Letter case

The full case mappings of text, in which one character may become several, and the characters that
differ from a character in case only. In lower case a capital sigma at the end of a word takes its
final form.
-/

namespace DataSchema.Unicode

open CaseTable

/-- The image of a character under runs and longer images; a character without image is kept. -/
def mapCase (runs : List Run) (long : List (Nat × List Nat)) (c : Char) : List Char :=
  match long.lookup c.toNat with
  | some image => image.map Char.ofNat
  | none => match runs.findSome? (·.image? c.toNat) with
    | some image => [Char.ofNat image]
    | none => [c]

def upperOf (c : Char) : List Char := mapCase upperRuns upperLong c

def lowerOf (c : Char) : List Char := mapCase lowerRuns lowerLong c

/-- Whether the nearest character that is not passed over has case. -/
def caseFollows (text : List Char) : Bool :=
  match text.dropWhile isCaseIgnorable with
  | c :: _ => isCased c
  | [] => false

/-- The lower case of a text; `before` is what precedes it, last character first. -/
def lowerFrom (before : List Char) : List Char → List Char
  | [] => []
  | c :: rest =>
    let image :=
      if c = 'Σ' then [if caseFollows before && !caseFollows rest then 'ς' else 'σ']
      else lowerOf c
    image ++ lowerFrom (c :: before) rest

def toLower (s : String) : String := String.ofList (lowerFrom [] s.toList)

def toUpper (s : String) : String := String.ofList (s.toList.flatMap upperOf)

/-- The characters that differ from `c` in case only, without `c`. -/
def caseVariants (c : Char) : List Char :=
  match foldGroups.find? (·.contains c.toNat) with
  | some group => (group.filter (· ≠ c.toNat)).map Char.ofNat
  | none => match foldRuns.findSome? fun r => r.image? c.toNat <|> r.preimage? c.toNat with
    | some other => [Char.ofNat other]
    | none => []

/-- The ASCII letter that differs from `c` in case only. -/
def asciiCaseVariants (c : Char) : List Char :=
  if c.isUpper then [c.toLower] else if c.isLower then [c.toUpper] else []

end DataSchema.Unicode
