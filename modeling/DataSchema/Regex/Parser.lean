import DataSchema.Regex.Tree

/-!
# Parsing patterns

`Tree.parse` reads a pattern from left to right in one pass into its syntax tree. Open groups stand
on a stack, each with the alternatives that precede it, and so do open classes. The first fault in
the form of a pattern ends the parse.
-/

namespace DataSchema.Regex

open Unicode

/-- Items in a row, the last one first, and where the row starts. -/
structure Row where
  first : Nat
  items : List Tree

def Row.push (r : Row) (t : Tree) : Row := { r with items := t :: r.items }

/-- The tree of a row that ends at an offset. -/
def Row.tree (r : Row) (last : Nat) : Tree := .ofItems ⟨r.first, last⟩ r.items.reverse

/-- Alternatives: the branches that are finished, the last one first, the row that is being read, and
where the first branch starts. -/
structure Branches where
  first : Nat
  finished : List Tree
  row : Row

def Branches.push (b : Branches) (t : Tree) : Branches := { b with row := b.row.push t }

/-- The tree of alternatives that end at an offset. -/
def Branches.tree (b : Branches) (last : Nat) : Tree :=
  match b.finished with
  | [] => b.row.tree last
  | finished => .alt (b.row.tree last :: finished).reverse ⟨b.first, last⟩

/-- A group that is still open: where it opened, and what precedes it. -/
structure Frame where
  opened : Nat
  captures : Bool
  flags : Flags
  before : Branches

/-- The reading position with everything met before it. -/
structure State where
  offset : Nat
  rest : List Char
  flags : Flags
  names : List (List Char × Span)
  frames : List Frame
  branches : Branches

abbrev Parser := StateT State (Except Fault)

namespace Parser

/-! ## Reading characters -/

def fail {α : Type} (problem : Problem) (first last : Nat) (earlier : Option Span := none) :
    Parser α :=
  throw ⟨problem, ⟨first, last⟩, earlier⟩

def offset : Parser Nat := return (← get).offset

def flags : Parser Flags := return (← get).flags

def atEnd : Parser Bool := return (← get).rest.isEmpty

/-- The character at the position; NUL at the end, which callers exclude first. -/
def peek : Parser Char := return (← get).rest.headD '\x00'

/-- Moves past a character; says whether one follows. -/
def bump : Parser Bool := do
  let s ← get
  match s.rest with
  | [] => return false
  | _ :: rest =>
    set { s with offset := s.offset + 1, rest }
    return !rest.isEmpty

/-- What follows blanks and comments: the number of characters passed, and the rest. -/
def afterSpace : (comment : Bool) → Nat → List Char → Nat × List Char
  | _, n, [] => (n, [])
  | true, n, c :: rest => afterSpace (c ≠ '\n') (n + 1) rest
  | false, n, c :: rest =>
    if isWhitespace c then afterSpace false (n + 1) rest
    else if c = '#' then afterSpace true (n + 1) rest
    else (n, c :: rest)

/-- Moves past blanks and comments in extended mode. -/
def bumpSpace : Parser Unit := do
  let s ← get
  if s.flags.extended then
    let (n, rest) := afterSpace false 0 s.rest
    set { s with offset := s.offset + n, rest }

/-- Moves past a character and the blanks after it; says whether a character follows. -/
def bumpAndSpace : Parser Bool := do
  if ← bump then
    bumpSpace
    return !(← atEnd)
  else return false

/-- Moves past a row of characters if it comes next. -/
def bumpIf (row : String) : Parser Bool := do
  let s ← get
  if row.toList.isPrefixOf s.rest then
    set { s with offset := s.offset + row.length, rest := s.rest.drop row.length }
    return true
  else return false

/-- Moves past the first of some rows of characters that comes next. -/
def bumpAny : List String → Parser Bool
  | [] => return false
  | row :: rows => do
    if ← bumpIf row then return true
    bumpAny rows

/-- The character after the next one. -/
def peekSecond : Parser (Option Char) := return (← get).rest.tail.head?

/-- What follows blanks. The mark of a comment is passed once, the comment itself is not. -/
def afterMark : (marked : Bool) → List Char → Option Char
  | _, [] => none
  | marked, c :: rest =>
    if isWhitespace c then afterMark marked rest
    else if !marked && c = '#' then afterMark true rest
    else some c

/-- The character that follows the next one: the one right after it, and in extended mode the one
after blanks and a mark, if anything comes after those. -/
def peekSecondSpace : Parser (Option Char) := do
  let s ← get
  let rest := s.rest.tail
  return if s.flags.extended then afterMark false rest <|> rest.head? else rest.head?

/-- Takes the characters that satisfy a test, with the blanks after each. -/
def takeWhile (test : Char → Bool) : Nat → List Char → Parser (List Char)
  | 0, taken => return taken.reverse
  | fuel + 1, taken => do
    if ← atEnd then return taken.reverse
    let c ← peek
    if test c then
      let _ ← bumpAndSpace
      takeWhile test fuel (c :: taken)
    else return taken.reverse

def takeAll (test : Char → Bool) : Parser (List Char) := do
  takeWhile test (← get).rest.length []

/-! ## Escapes -/

/-- What a single character or escape stands for. -/
inductive Primitive where
  | literal (l : Literal)
  | set (s : SetTree)
  | look (l : Look) (span : Span)
  | dot (span : Span)

def Primitive.span : Primitive → Span
  | .literal l => l.span
  | .set s => s.span
  | .look _ span | .dot span => span

def isHexDigit (c : Char) : Bool :=
  c.isDigit || ('a' ≤ c && c ≤ 'f') || ('A' ≤ c && c ≤ 'F')

/-- The character with a code written in hexadecimal. -/
def hexChar? (digits : List Char) : Option Char :=
  let code := hexNumber (digits.map Char.toUpper)
  if h : code.isValidChar then some ⟨code.toUInt32, by
    have hlt : code < UInt32.size := by
      have := h; simp only [Nat.isValidChar] at this; simp only [UInt32.size]; omega
    simpa [UInt32.isValidChar, UInt32.toNat_ofNat_of_lt' hlt] using h⟩
  else none

/-- The rest of a row with a fixed number of hexadecimal digits. -/
def hexRow : (more : Nat) → List Char → Parser (List Char)
  | 0, taken => return taken.reverse
  | more + 1, taken => do
    if !taken.isEmpty then
      if !(← bumpAndSpace) then fail .escapeUnexpectedEnd (← offset) (← offset)
    let c ← peek
    if !isHexDigit c then fail .escapeHexInvalidDigit (← offset) ((← offset) + 1)
    hexRow more (c :: taken)

/-- Hexadecimal digits up to the closing brace. -/
def hexBraced : Nat → List Char → Parser (List Char)
  | 0, taken => return taken.reverse
  | fuel + 1, taken => do
    if (← bumpAndSpace) && (← peek) ≠ '\x7d' then
      let c ← peek
      if !isHexDigit c then fail .escapeHexInvalidDigit (← offset) ((← offset) + 1)
      hexBraced fuel (c :: taken)
    else return taken.reverse

/-- A character by its code, from the letter after the backslash on. -/
def hexLiteral (start : Nat) : Parser Literal := do
  let letter ← peek
  if !(← bumpAndSpace) then fail .escapeUnexpectedEnd (← offset) (← offset)
  if (← peek) = '\x7b' then
    let brace ← offset
    let digits ← hexBraced ((← get).rest.length + 1) []
    if ← atEnd then fail .escapeUnexpectedEnd brace (← offset)
    let last ← offset
    let _ ← bumpAndSpace
    if digits.isEmpty then fail .escapeHexEmpty brace (← offset)
    match hexChar? digits with
    | some c => return ⟨c, false, ⟨start, ← offset⟩⟩
    | none => fail .escapeHexInvalid (brace + 1) last
  else
    let first ← offset
    let count := match letter with | 'x' => 2 | 'u' => 4 | _ => 8
    let digits ← hexRow count []
    let _ ← bumpAndSpace
    match hexChar? digits with
    | some c => return ⟨c, letter = 'x', ⟨start, ← offset⟩⟩
    | none => fail .escapeHexInvalid first (← offset)

/-- The name of a class up to the closing brace. -/
def nameBraced : Nat → List Char → Parser (List Char)
  | 0, taken => return taken.reverse
  | fuel + 1, taken => do
    if (← bumpAndSpace) && (← peek) ≠ '\x7d' then nameBraced fuel ((← peek) :: taken)
    else return taken.reverse

/-- The parts of a text before and after the first place where a row of characters stands. -/
def cutAt? (row : List Char) : List Char → Option (List Char × List Char)
  | [] => none
  | c :: rest =>
    if row.isPrefixOf (c :: rest) then some ([], (c :: rest).drop row.length)
    else (cutAt? row rest).map fun (before, after) => (c :: before, after)

/-- The name of the text between braces. The sign between a property and its value makes no
difference. -/
def nameOfText (text : List Char) : ClassName :=
  match cutAt? ['!', '='] text <|> cutAt? [':'] text <|> cutAt? ['='] text with
  | some (property, value) => .withValue property value
  | none => .alone text

/-- A class of a Unicode property, from the letter after the backslash on. -/
def propertyClass (start : Nat) : Parser Primitive := do
  let negated := (← peek) = 'P'
  if !(← bumpAndSpace) then fail .escapeUnexpectedEnd (← offset) (← offset)
  let name ←
    if (← peek) = '\x7b' then do
      let text ← nameBraced ((← get).rest.length + 1) []
      if ← atEnd then fail .escapeUnexpectedEnd (← offset) (← offset)
      let _ ← bump
      pure (nameOfText text)
    else do
      let c ← peek
      if c = '\\' then fail .unicodeClassInvalid (← offset) ((← offset) + 1)
      let _ ← bumpAndSpace
      pure (.alone [c])
  return .set (.named name negated ⟨start, ← offset⟩)

/-- The class that a letter after a backslash names; a capital names the complement. -/
def letterClass? (c : Char) (span : Span) : Option SetTree :=
  match c with
  | 'd' => some (.letter .digit false span)
  | 'D' => some (.letter .digit true span)
  | 's' => some (.letter .space false span)
  | 'S' => some (.letter .space true span)
  | 'w' => some (.letter .word false span)
  | 'W' => some (.letter .word true span)
  | _ => none

def isMeta (c : Char) : Bool :=
  c ∈ ['\\', '.', '+', '*', '?', '(', ')', '|', '[', ']', '\x7b', '\x7d', '^', '$', '#', '&', '-',
    '~']

/-- Whether a backslash before a character leaves it as it is. -/
def isEscapable (c : Char) : Bool :=
  isMeta c || (c.toNat < 128 && !c.isAlphanum && c ≠ '<' && c ≠ '>')

/-- The kind of word boundary in braces after `\b`, if there is one; `start` is the backslash. -/
def specialBoundary? (start : Nat) (ascii : Bool) : Parser (Option Look) := do
  let before ← get
  let brace := before.offset
  let valid (c : Char) : Bool := c.isAlpha || c = '-'
  if !(← bumpAndSpace) then fail .specialBoundaryUnexpectedEnd start (← offset)
  let contents ← offset
  if !valid (← peek) then
    set before
    return none
  let name ← takeAll valid
  if (← atEnd) || (← peek) ≠ '\x7d' then fail .specialBoundaryUnclosed brace (← offset)
  let last ← offset
  let _ ← bump
  match String.ofList name with
  | "start" => return some (.wordStart ascii)
  | "end" => return some (.wordEnd ascii)
  | "start-half" => return some (.wordStartHalf ascii)
  | "end-half" => return some (.wordEndHalf ascii)
  | _ => fail .specialBoundaryUnrecognized contents last

/-- An escape, from the backslash on. -/
def escape : Parser Primitive := do
  let start ← offset
  if !(← bump) then fail .escapeUnexpectedEnd start (← offset)
  let c ← peek
  if c.isDigit then fail .backreference start ((← offset) + 1)
  if c = 'x' || c = 'u' || c = 'U' then return .literal (← hexLiteral start)
  if c = 'p' || c = 'P' then return ← propertyClass start
  let _ ← bump
  let span := ⟨start, ← offset⟩
  if let some s := letterClass? c span then return .set s
  let literal (c : Char) : Primitive := .literal ⟨c, false, span⟩
  if isEscapable c then return literal c
  let ascii := !(← flags).unicode
  match c with
  | 'a' => return literal '\x07'
  | 'f' => return literal '\x0c'
  | 't' => return literal '\t'
  | 'n' => return literal '\n'
  | 'r' => return literal '\r'
  | 'v' => return literal '\x0b'
  | 'A' => return .look .textStart span
  | 'z' => return .look .textEnd span
  | 'b' =>
    if !(← atEnd) && (← peek) = '\x7b' then
      match ← specialBoundary? start ascii with
      | some l => return .look l ⟨start, ← offset⟩
      | none => return .look (.wordBoundary ascii) span
    else return .look (.wordBoundary ascii) span
  | 'B' => return .look (.notWordBoundary ascii) span
  | '<' => return .look (.wordStart ascii) span
  | '>' => return .look (.wordEnd ascii) span
  | _ => fail .escapeUnrecognized span.first span.last

/-! ## Bracketed classes -/

/-- Elements of a class beside each other, the last one first, and where they start. -/
structure Elements where
  first : Nat
  items : List SetTree

namespace Elements

def push (e : Elements) (s : SetTree) : Elements := { e with items := s :: e.items }

def tree (e : Elements) : SetTree := .ofItems e.first e.items.reverse

end Elements

/-- What precedes the position within a class: an opened class with the elements before it and the
span of its opening, or the left side of an operation. -/
inductive ClassFrame where
  | opened (before : Elements) (negated : Bool) (opening : Span)
  | op (o : SetOp) (left : SetTree)

/-- Joins a set with the left side that waits for it. -/
def closeOp (right : SetTree) : List ClassFrame → SetTree × List ClassFrame
  | .op o left :: frames => (.op o left right, frames)
  | frames => (right, frames)

/-- The fault of a class that is not closed: it marks the innermost open one. -/
def unclosed {α : Type} (frames : List ClassFrame) : Parser α :=
  match frames.findSome? fun | .opened _ _ opening => some opening | .op .. => none with
  | some opening => fail .classUnclosed opening.first opening.last
  | none => fail .classUnclosed 0 0

/-- A character at the position that stands for itself. -/
def verbatim : Parser Literal := do
  let start ← offset
  return ⟨← peek, false, ⟨start, start + 1⟩⟩

/-- Hyphens at the start of a class stand for themselves. -/
def leadingHyphens (start : Nat) : Nat → Elements → Parser Elements
  | 0, elements => return elements
  | fuel + 1, elements => do
    if (← peek) = '-' then
      let hyphen ← verbatim
      if !(← bumpAndSpace) then fail .classUnclosed start start
      leadingHyphens start fuel (elements.push (.literal hyphen))
    else return elements

/-- The opening of a class: its frame, and the elements that can only stand first. -/
def openClass (before : Elements) : Parser (ClassFrame × Elements) := do
  let start ← offset
  if !(← bumpAndSpace) then fail .classUnclosed start (← offset)
  let negated := (← peek) = '^'
  if negated then
    if !(← bumpAndSpace) then fail .classUnclosed start (← offset)
  let elements ← leadingHyphens start ((← get).rest.length + 1) ⟨← offset, []⟩
  let elements ←
    if elements.items.isEmpty && (← peek) = ']' then do
      let bracket ← verbatim
      if !(← bumpAndSpace) then fail .classUnclosed start (← offset)
      pure (elements.push (.literal bracket))
    else pure elements
  return (.opened before negated ⟨start, ← offset⟩, elements)

/-- A named ASCII class, if one comes next; otherwise nothing is read. -/
def asciiItem? : Parser (Option SetTree) := do
  let s ← get
  match s.rest with
  | '[' :: ':' :: rest =>
    let (negated, body) := match rest with
      | '^' :: body => (true, body)
      | body => (false, body)
    let name := body.takeWhile (· ≠ ':')
    match body.drop name.length, asciiClass? (String.ofList name) with
    | ':' :: ']' :: after, some table =>
      let last := s.offset + (s.rest.length - after.length)
      set { s with offset := last, rest := after }
      return some (.ascii table negated ⟨s.offset, last⟩)
    | _, _ => return none
  | _ => return none

def classPrimitive : Parser Primitive := do
  if (← peek) = '\\' then escape
  else
    let l ← verbatim
    let _ ← bump
    return .literal l

/-- A primitive as an element of a class. -/
def classItem : Primitive → Parser SetTree
  | .literal l => return .literal l
  | .set s => return s
  | .look _ span | .dot span => fail .classEscapeInvalid span.first span.last

/-- A primitive as an end of a range. -/
def rangeEnd : Primitive → Parser Literal
  | .literal l => return l
  | p => fail .classRangeLiteral p.span.first p.span.last

/-- A range, or an element that is not the start of one. A hyphen before the closing bracket or
before another hyphen starts no range. -/
def classRange (frames : List ClassFrame) : Parser SetTree := do
  let lower ← classPrimitive
  bumpSpace
  if ← atEnd then unclosed frames
  let next ← peekSecondSpace
  if (← peek) ≠ '-' || next = some ']' || next = some '-' then classItem lower
  else
    if !(← bumpAndSpace) then unclosed frames
    let upper ← classPrimitive
    let first ← rangeEnd lower
    let last ← rangeEnd upper
    if last.char < first.char then fail .classRangeInvalid lower.span.first upper.span.last
    return .range first last

/-- The elements of a class up to the bracket that closes the outermost one. `elements` is what the
innermost class has so far. -/
def classBody : Nat → List ClassFrame → Elements → Parser SetTree
  | 0, frames, _ => unclosed frames
  | fuel + 1, frames, elements => do
    bumpSpace
    if ← atEnd then unclosed frames
    let c ← peek
    let second ← peekSecond
    if c = '[' then
      match ← asciiItem? with
      | some item => classBody fuel frames (elements.push item)
      | none =>
        let (frame, inner) ← openClass elements
        classBody fuel (frame :: frames) inner
    else if c = ']' then
      match closeOp elements.tree frames with
      | (set, .opened before negated opening :: frames) =>
        let _ ← bump
        let set := .bracketed negated set ⟨opening.first, ← offset⟩
        if frames.isEmpty then return set else classBody fuel frames (before.push set)
      | (_, frames) => unclosed frames
    else if c = '&' && second = some '&' then operation .inter fuel frames elements
    else if c = '-' && second = some '-' then operation .diff fuel frames elements
    else if c = '~' && second = some '~' then operation .symmDiff fuel frames elements
    else classBody fuel frames (elements.push (← classRange frames))
where
  operation (o : SetOp) (fuel : Nat) (frames : List ClassFrame) (elements : Elements) :
      Parser SetTree := do
    let _ ← bump
    let _ ← bump
    let (left, frames) := closeOp elements.tree frames
    classBody fuel (.op o left :: frames) ⟨← offset, []⟩

/-- A class from its opening bracket on. -/
def bracketed : Parser SetTree := do
  let fuel := (← get).rest.length
  let (frame, elements) ← openClass ⟨← offset, []⟩
  classBody (fuel + 1) [frame] elements

/-! ## Groups and flags -/

def setFlag (f : Flags) (letter : Char) (on : Bool) : Option Flags :=
  match letter with
  | 'i' => some { f with ignoreCase := on }
  | 'm' => some { f with multiLine := on }
  | 's' => some { f with dotAll := on }
  | 'U' => some { f with swapGreed := on }
  | 'u' => some { f with unicode := on }
  | 'R' => some { f with crlf := on }
  | 'x' => some { f with extended := on }
  | _ => none

/-- The letters of a group's flags, up to the colon or parenthesis after them: the flags that they
leave, and the number of letters. -/
def flagLetters : Nat → (f : Flags) → (seen : List (Char × Nat)) → (negation : Option Nat) →
    Parser (Flags × Nat)
  | 0, f, seen, _ => return (f, seen.length)
  | fuel + 1, f, seen, negation => do
    let c ← peek
    let here ← offset
    if c = ':' || c = ')' then
      match negation, seen with
      | some n, ('-', _) :: _ => fail .flagDanglingNegation n (n + 1)
      | _, _ => return (f, seen.length)
    else
      let f ←
        if c = '-' then pure f
        else match setFlag f c negation.isNone with
          | some f => pure f
          | none => fail .flagUnrecognized here (here + 1)
      match seen.lookup c with
      | some earlier =>
        fail (if c = '-' then .flagRepeatedNegation else .flagDuplicate) here (here + 1)
          (some ⟨earlier, earlier + 1⟩)
      | none =>
        if !(← bump) then fail .flagUnexpectedEnd (← offset) (← offset)
        flagLetters fuel f ((c, here) :: seen) (if c = '-' then some here else negation)

/-- Whether a character can stand in the name of a group. -/
def isNameChar (c : Char) (isFirst : Bool) : Bool :=
  if isFirst then c = '_' || isAlphabetic c
  else c = '_' || c = '.' || c = '[' || c = ']' || isAlphanumeric c

/-- The characters of a name up to the closing angle bracket or the end. -/
def nameChars : Nat → List Char → Parser (List Char)
  | 0, taken => return taken.reverse
  | fuel + 1, taken => do
    let c ← peek
    if c = '>' then return taken.reverse
    if !isNameChar c taken.isEmpty then fail .groupNameInvalid (← offset) ((← offset) + 1)
    if ← bump then nameChars fuel (c :: taken) else return (c :: taken).reverse

/-- The name of a group, which no earlier group has. -/
def groupName : Parser Unit := do
  if ← atEnd then fail .groupNameUnexpectedEnd (← offset) (← offset)
  let first ← offset
  let name ← nameChars ((← get).rest.length + 1) []
  let last ← offset
  if ← atEnd then fail .groupNameUnexpectedEnd last last
  let _ ← bump
  if name.isEmpty then fail .groupNameEmpty first first
  match (← get).names.lookup name with
  | some earlier => fail .groupNameDuplicate first last (some earlier)
  | none => modify fun s => { s with names := (name, ⟨first, last⟩) :: s.names }

/-- Opens a group at an offset: what precedes it waits on the stack. -/
def pushFrame (opened : Nat) (captures : Bool) (inner : Flags) : Parser Unit :=
  modify fun s =>
    { s with
      frames := ⟨opened, captures, s.flags, s.branches⟩ :: s.frames
      flags := inner
      branches := ⟨s.offset, [], ⟨s.offset, []⟩⟩ }

def pushItem (t : Tree) : Parser Unit :=
  modify fun s => { s with branches := s.branches.push t }

/-- A group or a setting of flags, from the opening parenthesis on. -/
def openGroup : Parser Unit := do
  let opened ← offset
  let _ ← bump
  bumpSpace
  if ← bumpAny ["?=", "?!", "?<=", "?<!"] then
    fail .lookAround opened (← offset)
  let inner ← offset
  let outer ← flags
  if ← bumpAny ["?P<", "?<"] then
    groupName
    pushFrame opened true outer
  else if ← bumpIf "?" then
    if ← atEnd then fail .groupUnclosed opened (opened + 1)
    let (f, count) ← flagLetters ((← get).rest.length + 1) outer [] none
    let close ← peek
    let _ ← bump
    if close = ')' then
      if count = 0 then fail .repetitionMissing inner inner
      modify fun s => { s with flags := f }
      pushItem .modes
    else pushFrame opened false f
  else pushFrame opened true outer

def closeGroup : Parser Unit := do
  let s ← get
  match s.frames with
  | [] => fail .groupUnopened s.offset (s.offset + 1)
  | frame :: frames =>
    let t : Tree := .group frame.captures (s.branches.tree s.offset) ⟨frame.opened, s.offset + 1⟩
    set { s with frames, flags := frame.flags, branches := frame.before.push t }
    let _ ← bump

def nextBranch : Parser Unit := do
  let last ← offset
  let _ ← bump
  modify fun s =>
    let b := s.branches
    { s with branches := ⟨b.first, b.row.tree last :: b.finished, ⟨s.offset, []⟩⟩ }

/-! ## Repetitions -/

/-- Takes off the item that a repetition repeats. -/
def popRepeated : Parser Tree := do
  let s ← get
  match s.branches.row.items with
  | [] | .modes :: _ | .empty :: _ => fail .repetitionMissing s.offset s.offset
  | t :: items =>
    set { s with branches := { s.branches with row := { s.branches.row with items } } }
    return t

/-- Puts back an item with its repetition. -/
def pushRepetition (t : Tree) (least : Nat) (most : Option Nat) : Parser Unit := do
  pushItem (.rep t least most ⟨t.span.first, ← offset⟩)

/-- Whether a repetition prefers few rounds or many makes no difference to where it can end. -/
def skipLazyMark : Parser Unit := do
  if !(← atEnd) && (← peek) = '?' then
    let _ ← bump

def simpleRepetition (least : Nat) (most : Option Nat) : Parser Unit := do
  let t ← popRepeated
  let _ ← bump
  skipLazyMark
  pushRepetition t least most

def isSpace (c : Char) : Bool := isWhitespace c

/-- A count: digits with blanks around them. What is wrong with it is reported where it is used. -/
def count : Parser (Except Fault Nat) := do
  let fuel := (← get).rest.length
  let s ← get
  let blanks := s.rest.takeWhile isSpace
  set { s with offset := s.offset + blanks.length, rest := s.rest.drop blanks.length }
  let first ← offset
  let row ← takeWhile Char.isDigit fuel []
  let last ← offset
  let _ ← takeAll isSpace
  let n := row.foldl (fun n c => 10 * n + (c.toNat - '0'.toNat)) 0
  if row.isEmpty then return .error ⟨.repetitionCountEmpty, ⟨first, last⟩, none⟩
  else if UInt32.size ≤ n then return .error ⟨.decimalInvalid, ⟨first, last⟩, none⟩
  else return .ok n

/-- The number of a count. -/
def needed : Except Fault Nat → Parser Nat
  | .ok n => return n
  | .error fault => throw fault

/-- The bounds of a repetition, whose opening brace is at `start`. -/
def bounds (start : Nat) : Parser (Nat × Option Nat) := do
  let least ← count
  if ← atEnd then fail .repetitionCountUnclosed start (← offset)
  if (← peek) = ',' then
    if !(← bumpAndSpace) then fail .repetitionCountUnclosed start (← offset)
    let least ← needed least
    if (← peek) = '\x7d' then return (least, none)
    let most ← needed (← count)
    return (least, some most)
  else
    let n ← needed least
    return (n, some n)

/-- A repetition with counts, from the opening brace on. -/
def countedRepetition : Parser Unit := do
  let start ← offset
  let t ← popRepeated
  if !(← bumpAndSpace) then fail .repetitionCountUnclosed start (← offset)
  let (least, most) ← bounds start
  if (← atEnd) || (← peek) ≠ '\x7d' then fail .repetitionCountUnclosed start (← offset)
  if (← bumpAndSpace) && (← peek) = '?' then
    let _ ← bump
  if most.any (· < least) then fail .repetitionCountInvalid start (← offset)
  pushRepetition t least most

/-! ## Patterns -/

/-- A single character or escape as an item. -/
def primitive : Parser Unit := do
  let c ← peek
  let start ← offset
  let span : Span := ⟨start, start + 1⟩
  let f ← flags
  let p ← match c with
    | '\\' => escape
    | '.' => do let _ ← bump; pure (Primitive.dot span)
    | '^' => do
      let _ ← bump
      pure (.look (if f.multiLine then .lineStart f.crlf else .textStart) span)
    | '$' => do
      let _ ← bump
      pure (.look (if f.multiLine then .lineEnd f.crlf else .textEnd) span)
    | c => do let _ ← bump; pure (.literal ⟨c, false, span⟩)
  pushItem (match p with
    | .literal l => .literal f l
    | .set s => .set f s
    | .look l span => .look l span
    | .dot span => .dot f span)

/-- Reads the pattern to its end. Each round moves past at least one character. -/
def body : Nat → Parser Unit
  | 0 => return ()
  | fuel + 1 => do
    bumpSpace
    if ← atEnd then return ()
    match ← peek with
    | '(' => openGroup
    | ')' => closeGroup
    | '|' => nextBranch
    | '[' => do pushItem (.set (← flags) (← bracketed))
    | '?' => simpleRepetition 0 (some 1)
    | '*' => simpleRepetition 0 none
    | '+' => simpleRepetition 1 none
    | '\x7b' => countedRepetition
    | _ => primitive
    body fuel

/-- A whole pattern. -/
def pattern : Parser Tree := do
  body ((← get).rest.length + 1)
  let s ← get
  match s.frames with
  | frame :: _ => fail .groupUnclosed frame.opened (frame.opened + 1)
  | [] => return s.branches.tree s.offset

end Parser

/-- The syntax tree of a pattern. -/
def Tree.parse (pattern : String) : Except Fault Tree :=
  let start : State :=
    { offset := 0, rest := pattern.toList, flags := {}, names := [], frames := []
      branches := ⟨0, [], ⟨0, []⟩⟩ }
  (Parser.pattern.run start).map (·.1)

end DataSchema.Regex
