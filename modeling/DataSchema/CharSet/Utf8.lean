import DataSchema.CharSet.Ranges

/-!
# Sets of characters as rows of bytes

In UTF-8 a character is a row of one to four bytes. The rows of a set of characters fall into rows
of byte ranges: any choice of one byte from each range of a row is a character of the set, and each
character comes from one row. An automaton that reads bytes follows these rows; this module counts
its states.
-/

namespace DataSchema.Utf8

open Unicode

/-- A range of bytes for each place of a row. -/
abbrev ByteRow := List (Nat × Nat)

/-- The bytes of a code point. -/
def bytes (c : Nat) : List Nat :=
  if c < 0x80 then [c]
  else if c < 0x800 then [0xC0 + c / 64, 0x80 + c % 64]
  else if c < 0x10000 then [0xE0 + c / 4096, 0x80 + c / 64 % 64, 0x80 + c % 64]
  else [0xF0 + c / 262144, 0x80 + c / 4096 % 64, 0x80 + c / 64 % 64, 0x80 + c % 64]

/-- The code points of each length, the surrogates left out. -/
def lengths : List (Nat × Nat) :=
  [(0, 0x7F), (0x80, 0x7FF), (0x800, 0xD7FF), (0xE000, 0xFFFF), (0x10000, 0x10FFFF)]

/-- Cuts a range so that, from the first place on at which the ends of a part differ, the part has
all bytes at the later places. `block` is the number of characters that share the bytes before the
last ones under consideration. -/
def cut : (levels : Nat) → (block lo hi : Nat) → List (Nat × Nat)
  | 0, _, lo, hi => [(lo, hi)]
  | levels + 1, block, lo, hi =>
    if lo / block = hi / block then [(lo, hi)]
    else
      let next := (lo / block + 1) * block
      let (head, lo) := if lo % block = 0 then ([], lo) else ([(lo, next - 1)], next)
      if lo / block = hi / block then head ++ [(lo, hi)]
      else
        let last := hi / block * block
        let (tail, hi) := if (hi + 1) % block = 0 then ([], hi) else ([(last, hi)], last - 1)
        head ++ cut levels (64 * block) lo hi ++ tail

/-- The rows of a range of characters. -/
def rowsOfRange (lo hi : Nat) : List ByteRow :=
  lengths.flatMap fun (first, last) =>
    let lo := max lo first
    let hi := min hi last
    if lo ≤ hi then
      (cut ((bytes lo).length - 1) 64 lo hi).map fun (lo, hi) => (bytes lo).zip (bytes hi)
    else []

/-- The rows of ascending ranges. -/
def rows (t : Table) : List ByteRow := t.flatMap fun (lo, hi) => rowsOfRange lo hi

/-! ## Rows that share their beginnings -/

/-- How many elements two lists share at their start. -/
def shared : ByteRow → ByteRow → Nat
  | a :: as, b :: bs => if a = b then shared as bs + 1 else 0
  | _, _ => 0

/-- The number of different beginnings of rows in ascending order, after a first row. -/
def beginnings (previous : ByteRow) : List ByteRow → Nat
  | [] => 0
  | row :: rest => (row.length - shared previous row) + beginnings row rest

/-! ## Rows that share their ends -/

/-- A state of an automaton: the ranges of bytes that it reads, and the states they lead to. -/
abbrev Node := List (Nat × Nat × Nat)

/-- The states met so far, the last one first. A state is known by its place from the end. -/
abbrev Nodes := List Node

/-- The place of a state, which is added unless an equal one is there. -/
def intern (node : Node) (nodes : Nodes) : Nat × Nodes :=
  match nodes.idxOf? node with
  | some i => (nodes.length - i, nodes)
  | none => (nodes.length + 1, node :: nodes)

/-- The state that reads what rows have in common order, where `0` is the state after the last
byte. Rows are of at most `depth` bytes. -/
def node : (depth : Nat) → List ByteRow → Nodes → Nat × Nodes
  | 0, _, nodes => (0, nodes)
  | depth + 1, rows, nodes =>
    if rows.all (·.isEmpty) then (0, nodes)
    else
      let (steps, nodes) :=
        (rows.splitBy fun a b => a.head? = b.head?).foldl
          (fun (steps, nodes) group =>
            let (next, nodes) := node depth (group.map List.tail) nodes
            match group with
            | ((lo, hi) :: _) :: _ => ((lo, hi, next) :: steps, nodes)
            | _ => (steps, nodes))
          (([] : Node), nodes)
      intern steps nodes

/-- The states of the smallest automaton for rows in ascending order, the last state left out. -/
def nodes (rows : List ByteRow) : Nodes := (node 4 rows []).2

end DataSchema.Utf8
