import DataSchema.CharSet.Ranges
import DataSchema.Regex.Tree

/-!
# What patterns mean

`Tree.meaning` gives the regular expression of a tree, or the first fault in what it says: a class
that does not exist, or without Unicode a class that reaches beyond ASCII. Where case is ignored, a
class is closed under case before it is negated.
-/

namespace DataSchema.Regex

open Unicode

/-- A set closed under case where case is ignored. -/
def Flags.fold (f : Flags) (s : CharSet) : CharSet :=
  if f.ignoreCase then .foldCase (!f.unicode) s else s

/-- Without Unicode a set must stay within ASCII. All characters beyond ASCII are alike there, so
one of them tells. -/
def Flags.checkAscii (f : Flags) (s : CharSet) (span : Span) : Except Fault CharSet :=
  if !f.unicode && s.contains '\x80' then .error ⟨.invalidUtf8, span, none⟩ else .ok s

/-- A set closed under case, then negated if asked for, which without Unicode stays within ASCII. -/
def Flags.class (f : Flags) (negated : Bool) (s : CharSet) (span : Span) : Except Fault CharSet :=
  f.checkAscii ((f.fold s).negateIf negated) span

/-- Without Unicode a byte beyond ASCII is no character. -/
def Literal.character (l : Literal) (f : Flags) : Except Fault Char :=
  if !f.unicode && l.byte && 0x80 ≤ l.char.toNat then .error ⟨.invalidUtf8, l.span, none⟩
  else .ok l.char

/-- A literal in a bracketed class, where without Unicode only ASCII has a place. -/
def Literal.element (l : Literal) (f : Flags) : Except Fault Char := do
  let c ← l.character f
  if !f.unicode && 0x80 ≤ c.toNat then throw ⟨.unicodeNotAllowed, l.span, none⟩
  return c

def LetterClass.characters (unicode : Bool) : LetterClass → CharSet
  | .digit => .ranges (if unicode then Category.decimalNumber else [(0x30, 0x39)])
  | .space => .ranges (if unicode then whitespace else [(0x9, 0xD), (0x20, 0x20)])
  | .word => .ranges (if unicode then Unicode.word else Look.asciiWord)

def SetOp.apply : SetOp → CharSet → CharSet → CharSet
  | .inter => .inter
  | .diff => .diff
  | .symmDiff => .symmDiff

/-- A class by its name, which only Unicode knows. -/
def ClassName.meaning (name : ClassName) (f : Flags) (negated : Bool) (span : Span) :
    Except Fault CharSet :=
  if !f.unicode then .error ⟨.unicodeNotAllowed, span, none⟩
  else match name.characters with
    | .error problem => .error ⟨problem, span, none⟩
    | .ok s => .ok ((f.fold s).negateIf negated)

namespace SetTree

mutual

/-- The characters of a class under the modes in force. -/
def meaning (f : Flags) : SetTree → Except Fault CharSet
  | .empty _ => return .none
  | .literal l => return .single (← l.element f)
  | .range first last => return .range (← first.element f) (← last.element f)
  | .letter c negated span => f.checkAscii ((c.characters f.unicode).negateIf negated) span
  | .ascii table negated span => f.class negated (.ranges table) span
  | .named name negated span => name.meaning f negated span
  | .union items => unionMeaning f items
  | .op o left right => return o.apply (f.fold (← left.meaning f)) (f.fold (← right.meaning f))
  | .bracketed negated set span => do f.class negated (← set.meaning f) span

/-- The characters of any of some classes. -/
def unionMeaning (f : Flags) : List SetTree → Except Fault CharSet
  | [] => return .none
  | s :: rest => return .union (← s.meaning f) (← unionMeaning f rest)

end

end SetTree

/-- The characters that a dot stands for. -/
def dotSet (f : Flags) : CharSet :=
  if f.dotAll then .everything
  else if f.crlf then .compl (.ranges [(0xA, 0xA), (0xD, 0xD)])
  else .compl (.single '\n')

def isEmpty : Regex → Bool
  | .empty => true
  | _ => false

/-- The expressions in a row. Those that are empty without condition drop out. -/
def inRow (rs : List Regex) : Regex := concatAll (rs.filter (!·.isEmpty))

def set? : Regex → Option CharSet
  | .chars s => some s
  | _ => none

/-- One of some expressions. Single characters make one set, and so do sets of several. -/
def oneOf (rs : List Regex) : Regex :=
  match rs.mapM set? with
  | some (s :: sets) =>
    if sets.all fun t => t.isSingle = s.isSingle then
      .chars (sets.foldl .union s)
    else altAll rs
  | _ => altAll rs

namespace Tree

mutual

/-- The regular expression of a tree. -/
def meaning : Tree → Except Fault Regex
  | .empty | .modes => return .empty
  | .literal f l => return .chars (f.fold (.single (← l.character f)))
  | .dot f span =>
    if f.unicode then return .chars (dotSet f) else throw ⟨.invalidUtf8, span, none⟩
  | .look l _ => return .look l
  | .set f s => return .chars (← s.meaning f)
  | .rep t least most _ => return .rep (← t.meaning) least most
  | .group captures t _ => do
    let r ← t.meaning
    return if captures then .group r else r
  | .concat items _ => return inRow (← meanings items)
  | .alt branches _ => return oneOf (← meanings branches)

def meanings : List Tree → Except Fault (List Regex)
  | [] => return []
  | t :: rest => return (← t.meaning) :: (← meanings rest)

end

end Tree

end DataSchema.Regex
