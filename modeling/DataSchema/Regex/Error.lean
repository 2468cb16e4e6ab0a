import DataSchema.Unicode.Table

/-!
# Errors in regular expressions

A pattern that is no regular expression has a problem at a span of its characters; a repeated name
or flag has a second span, where it stood first. The message shows the pattern with carets under
the spans; a pattern of several lines is shown with line numbers between two rules. A pattern can
also be too large.
-/

namespace DataSchema.Regex

/-- What is wrong with a pattern. -/
inductive Problem where
  | classEscapeInvalid
  | classRangeInvalid
  | classRangeLiteral
  | classUnclosed
  | decimalInvalid
  | escapeHexEmpty
  | escapeHexInvalid
  | escapeHexInvalidDigit
  | escapeUnexpectedEnd
  | escapeUnrecognized
  | flagDanglingNegation
  | flagDuplicate
  | flagRepeatedNegation
  | flagUnexpectedEnd
  | flagUnrecognized
  | groupNameDuplicate
  | groupNameEmpty
  | groupNameInvalid
  | groupNameUnexpectedEnd
  | groupUnclosed
  | groupUnopened
  | nestLimitExceeded (limit : Nat)
  | repetitionCountInvalid
  | repetitionCountEmpty
  | repetitionCountUnclosed
  | repetitionMissing
  | specialBoundaryUnclosed
  | specialBoundaryUnrecognized
  | specialBoundaryUnexpectedEnd
  | unicodeClassInvalid
  | backreference
  | lookAround
  | unicodeNotAllowed
  | invalidUtf8
  | propertyNotFound
  | propertyValueNotFound
deriving DecidableEq, Repr

def Problem.text : Problem → String
  | .classEscapeInvalid => "invalid escape sequence found in character class"
  | .classRangeInvalid =>
    "invalid character class range, the start must be <= the end"
  | .classRangeLiteral => "invalid range boundary, must be a literal"
  | .classUnclosed => "unclosed character class"
  | .decimalInvalid => "decimal literal invalid"
  | .escapeHexEmpty => "hexadecimal literal empty"
  | .escapeHexInvalid => "hexadecimal literal is not a Unicode scalar value"
  | .escapeHexInvalidDigit => "invalid hexadecimal digit"
  | .escapeUnexpectedEnd =>
    "incomplete escape sequence, reached end of pattern prematurely"
  | .escapeUnrecognized => "unrecognized escape sequence"
  | .flagDanglingNegation => "dangling flag negation operator"
  | .flagDuplicate => "duplicate flag"
  | .flagRepeatedNegation => "flag negation operator repeated"
  | .flagUnexpectedEnd => "expected flag but got end of regex"
  | .flagUnrecognized => "unrecognized flag"
  | .groupNameDuplicate => "duplicate capture group name"
  | .groupNameEmpty => "empty capture group name"
  | .groupNameInvalid => "invalid capture group character"
  | .groupNameUnexpectedEnd => "unclosed capture group name"
  | .groupUnclosed => "unclosed group"
  | .groupUnopened => "unopened group"
  | .nestLimitExceeded limit =>
    "exceed the maximum number of nested parentheses/brackets (" ++ toString limit ++ ")"
  | .repetitionCountInvalid =>
    "invalid repetition count range, the start must be <= the end"
  | .repetitionCountEmpty => "repetition quantifier expects a valid decimal"
  | .repetitionCountUnclosed => "unclosed counted repetition"
  | .repetitionMissing => "repetition operator missing expression"
  | .specialBoundaryUnclosed =>
    "special word boundary assertion is either unclosed or contains an invalid character"
  | .specialBoundaryUnrecognized =>
    "unrecognized special word boundary assertion, valid choices are: " ++
      "start, end, start-half or end-half"
  | .specialBoundaryUnexpectedEnd =>
    "found either the beginning of a special word boundary or a bounded repetition on a " ++
      "\\b with an opening brace, but no closing brace"
  | .unicodeClassInvalid => "invalid Unicode character class"
  | .backreference => "backreferences are not supported"
  | .lookAround => "look-around, including look-ahead and look-behind, is not supported"
  | .unicodeNotAllowed => "Unicode not allowed here"
  | .invalidUtf8 => "pattern can match invalid UTF-8"
  | .propertyNotFound => "Unicode property not found"
  | .propertyValueNotFound => "Unicode property value not found"

/-- A row of characters of a pattern, from one offset up to another. -/
structure Span where
  first : Nat
  last : Nat
deriving DecidableEq, Repr

/-- A problem at a span; `earlier` is where a repeated thing stood first. -/
structure Fault where
  problem : Problem
  span : Span
  earlier : Option Span
deriving DecidableEq, Repr

/-- Why a pattern gives no regular expression. -/
inductive Error where
  | malformed (pattern : String) (fault : Fault)
  | tooLarge (limit : Nat)
deriving DecidableEq, Repr

/-! ## The message -/

/-- A place in a text of several lines, both counted from zero. -/
structure Place where
  line : Nat
  column : Nat

/-- The place after a row of characters. -/
def placeAfter (text : List Char) : Place :=
  text.foldl
    (fun p c => if c = '\n' then ⟨p.line + 1, 0⟩ else { p with column := p.column + 1 }) ⟨0, 0⟩

/-- The lines of a text, without the line feed or the carriage return and line feed that end them.
Nothing follows a line feed at the end of the text. -/
def linesOf (text : List Char) : List (List Char) :=
  let rows := Unicode.splitAt (· = '\n') text
  let ended := rows.dropLast.map fun row => if row.getLast? = some '\r' then row.dropLast else row
  match rows.getLast? with
  | some [] | none => ended
  | some last => ended ++ [last]

/-- Spans in the order of their places. -/
def Fault.spans (f : Fault) : List Span :=
  match f.earlier with
  | none => [f.span]
  | some s => if s.first ≤ f.span.first then [s, f.span] else [f.span, s]

/-- The carets of spans of one line: each span has at least one, and blanks fill the gaps. -/
def carets (column : Nat) : List (Nat × Nat) → List Char
  | [] => []
  | (first, last) :: rest =>
    let width := max 1 (last - first)
    List.replicate (first - column) ' ' ++ List.replicate width '^' ++
      carets (max column first + width) rest

/-- The spans that lie within one line, as columns. -/
def spansOfLine (pattern : List Char) (line : Nat) (spans : List Span) : List (Nat × Nat) :=
  spans.filterMap fun s =>
    let first := placeAfter (pattern.take s.first)
    let last := placeAfter (pattern.take s.last)
    if first.line = line ∧ last.line = line then some (first.column, last.column) else none

/-- The notes on spans of several lines. -/
def longSpanNotes (pattern : List Char) (spans : List Span) : List String :=
  spans.filterMap fun s =>
    let first := placeAfter (pattern.take s.first)
    let last := placeAfter (pattern.take s.last)
    if first.line = last.line then none
    else some ("on line " ++ toString (first.line + 1) ++ " (column " ++
      toString (first.column + 1) ++ ") through line " ++ toString (last.line + 1) ++
      " (column " ++ toString last.column ++ ")")

def padLeft (width : Nat) (s : String) : String :=
  String.ofList (List.replicate (width - s.length) ' ') ++ s

/-- The lines of a pattern, each with its number if there are several, and carets below it. -/
def notated (pattern : List Char) (spans : List Span) : String :=
  let lines := linesOf pattern
  let count := lines.length + (if pattern.getLast? = some '\n' then 1 else 0)
  let width := if count ≤ 1 then 0 else (toString count).length
  let shown := lines.mapIdx fun i line =>
    let label := if width = 0 then "    " else padLeft width (toString (i + 1)) ++ ": "
    let marks := spansOfLine pattern i spans
    let below := if marks.isEmpty then ""
      else String.ofList (List.replicate label.length ' ' ++ carets 0 marks) ++ "\n"
    label ++ String.ofList line ++ "\n" ++ below
  String.join shown

/-- The message of a fault in a pattern. -/
def Fault.message (fault : Fault) (pattern : List Char) : String :=
  let spans := fault.spans
  let shown := notated pattern spans
  let rule := String.ofList (List.replicate 79 '~') ++ "\n"
  let body :=
    if pattern.contains '\n' then
      let notes := longSpanNotes pattern spans
      rule ++ shown ++ rule ++
        (if notes.isEmpty then "" else "\n".intercalate notes ++ "\n")
    else shown
  "regex parse error:\n" ++ body ++ "error: " ++ fault.problem.text

def Error.message : Error → String
  | .malformed pattern fault => fault.message pattern.toList
  | .tooLarge limit => "Compiled regex exceeds size limit of " ++ toString limit ++ " bytes."

end DataSchema.Regex
