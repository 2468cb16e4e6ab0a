import DataSchema.CharSet.Utf8
import DataSchema.Regex

/-!
# The size of an automaton

A regular expression may not be too large. Its size is that of an automaton that reads the bytes of
a text, forward or backward. A state takes 32 bytes, a step from a state that reads one of several
ranges of bytes 8, and a branch from a state that reads nothing 4. Repetitions are written out, so
the size grows with their counts; it is computed without writing them out.
-/

namespace DataSchema

/-- The way in which an automaton reads a text. -/
inductive Direction where
  | forward
  | backward
deriving DecidableEq

namespace CharSet

/-- The size for one character of a set. A single character is read byte by byte, and ASCII alone
in one state. Otherwise, forward, states are shared between characters that end alike; backward,
between those that begin alike. -/
def size (d : Direction) (s : CharSet) : Nat :=
  let table := s.toRanges
  match table.only? with
  | some c => 32 * (Utf8.bytes c).length
  | .none =>
    if table.all fun (_, hi) => hi < 0x80 then 64 + 8 * table.length
    else
      let rows := Utf8.rows table
      match d with
      | .forward => (Utf8.nodes rows).foldl (fun n node => n + 32 + 8 * node.length) 32
      | .backward => 64 + 32 * Utf8.beginnings [] rows + 4 * rows.length

end CharSet

namespace Regex

/-- Whether every match is empty. -/
def matchesOnlyEmpty : Regex → Bool
  | .empty | .look _ => true
  | .chars _ => false
  | .concat r s | .alt r s => r.matchesOnlyEmpty && s.matchesOnlyEmpty
  | .rep r _ most => r.matchesOnlyEmpty || most = some 0
  | .group r => r.matchesOnlyEmpty

/-- Whether no match is empty, as far as the form of the expression shows. -/
def matchesNoEmpty : Regex → Bool
  | .empty | .look _ => false
  | .chars s => !s.toRanges.isEmpty
  | .concat r s => r.matchesNoEmpty || s.matchesNoEmpty
  | .alt r s => r.matchesNoEmpty && s.matchesNoEmpty
  | .rep r least _ => 0 < least && r.matchesNoEmpty
  | .group r => r.matchesNoEmpty

/-- Whether every match starts at the start of the text, as far as the form shows. -/
def startsText : Regex → Bool
  | .look l => l = .textStart
  | .empty | .chars _ => false
  | .concat r s => r.startsText || (r.matchesOnlyEmpty && s.startsText)
  | .alt r s => r.startsText && s.startsText
  | .rep r least _ => 0 < least && r.startsText
  | .group r => r.startsText

/-- Whether every match ends at the end of the text, as far as the form shows. -/
def endsText : Regex → Bool
  | .look l => l = .textEnd
  | .empty | .chars _ => false
  | .concat r s => s.endsText || (s.matchesOnlyEmpty && r.endsText)
  | .alt r s => r.endsText && s.endsText
  | .rep r least _ => 0 < least && r.endsText
  | .group r => r.endsText

/-- The size of a repetition of an expression of size `n`. Each optional round branches from its
start to the end of all. A round that can be empty is kept apart from the branch that skips all. -/
def repetitionSize (n : Nat) (noEmpty : Bool) : (least : Nat) → (most : Option Nat) → Nat
  | 0, some 0 => 32
  | 1, some 1 => n
  | 0, some 1 => n + 72
  | 0, none => if noEmpty then n + 40 else n + 112
  | least, none => least * n + 40
  | least, some most =>
    if most ≤ least then least * n
    else (if least = 0 then 32 else least * n) + 32 + (most - least) * (n + 40)

/-- The size of a branch among others: branches of branches stand side by side. -/
def branchSize : Regex → (size : Nat) → Nat
  | .alt .., size => size - 64
  | _, size => size + 4

/-- The size of the part of an automaton that reads an expression. A repetition of what is always
empty takes at most one round. -/
def size (d : Direction) : Regex → Nat
  | .empty | .look _ => 32
  | .chars s => s.size d
  | .concat r s => r.size d + s.size d
  | .alt r s => 64 + r.branchSize (r.size d) + s.branchSize (s.size d)
  | .rep r least most =>
    let n := r.size d
    if r.matchesOnlyEmpty then
      repetitionSize n r.matchesNoEmpty (min least 1) (some ((most.getD 1).min 1))
    else repetitionSize n r.matchesNoEmpty least most
  | .group r => match d with
    | .forward => 64 + r.size d
    | .backward => r.size d

/-- The size of a whole automaton. One that need not start at an end of the text skips bytes first.
Only reading forward records places. -/
def automatonSize (r : Regex) : Direction → Nat
  | .forward => (if r.startsText then 32 else 112) + 64 + r.size .forward + 32
  | .backward => (if r.endsText then 32 else 112) + r.size .backward + 32

/-- The largest size that is accepted, in bytes. -/
def sizeLimit : Nat := 10485760

/-- Whether the automata of an expression are small enough. -/
def fits (r : Regex) : Bool :=
  r.automatonSize .forward ≤ sizeLimit && r.automatonSize .backward ≤ sizeLimit

end Regex

end DataSchema
