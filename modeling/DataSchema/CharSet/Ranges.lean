import DataSchema.CharSet

/-!
# The ranges of a set

`CharSet.toRanges` lists a set of characters as ranges in ascending order, with a gap between any
two of them. A set has one such list, so the number of its ranges belongs to the set and not to the
way it was put together.
-/

namespace DataSchema

namespace Unicode

namespace Table

def has (t : Table) (n : Nat) : Bool := t.any fun (lo, hi) => lo ≤ n && n ≤ hi

/-- Adds a range that starts after the start of the last one; the last one stands first. -/
def insertLast : Table → Nat × Nat → Table
  | [], range => [range]
  | (lo, hi) :: before, (lo', hi') =>
    if lo' ≤ hi + 1 then (lo, max hi hi') :: before else (lo', hi') :: (lo, hi) :: before

/-- The same code points in ascending ranges with gaps between them. -/
def normal (t : Table) : Table :=
  ((t.mergeSort fun a b => a.1 ≤ b.1).foldl insertLast []).reverse

/-- The code points from `start` on that are not in a normal table. -/
def gaps (start : Nat) : Table → Table
  | [] => if start ≤ 0x10FFFF then [(start, 0x10FFFF)] else []
  | (lo, hi) :: rest =>
    if start < lo then (start, lo - 1) :: gaps (hi + 1) rest else gaps (hi + 1) rest

/-- The letters of ASCII that differ in case only from one of a table. -/
def asciiVariants (t : Table) : Table :=
  (List.range 26).flatMap fun k =>
    (if t.has (0x41 + k) then [(0x61 + k, 0x61 + k)] else []) ++
      (if t.has (0x61 + k) then [(0x41 + k, 0x41 + k)] else [])

/-- The characters that differ in case only from one of a table. -/
def variants (t : Table) : Table :=
  ((CaseTable.foldRuns.flatMap Run.pairs).flatMap fun (c, image) =>
      (if t.has c then [(image, image)] else []) ++ (if t.has image then [(c, c)] else [])) ++
    CaseTable.foldGroups.flatMap fun group =>
      if group.any t.has then group.map fun c => (c, c) else []

/-- The only code point of a normal table that has just one. -/
def only? : Table → Option Nat
  | [(lo, hi)] => if lo = hi then some lo else none
  | _ => none

end Table

end Unicode

namespace CharSet

open Unicode

/-- The ranges of a set, in ascending order and with gaps between them. -/
def toRanges : CharSet → Table
  | .ranges table => table.normal
  | .compl s => s.toRanges.gaps 0
  | .union s t => (s.toRanges ++ t.toRanges).normal
  | .inter s t => (s.toRanges.gaps 0 ++ t.toRanges.gaps 0).normal.gaps 0
  | .foldCase ascii s =>
    let t := s.toRanges
    (t ++ (if ascii then t.asciiVariants else t.variants)).normal

/-- Whether a set has exactly one character. -/
def isSingle (s : CharSet) : Bool := s.toRanges.only?.isSome

end CharSet

end DataSchema
