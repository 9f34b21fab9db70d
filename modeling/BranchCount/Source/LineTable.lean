/-!
From byte offsets to lines and columns.

A line ends in a line feed, in a carriage return that no line feed follows, or in both together.
Lines are numbered from 1 and columns, in bytes, from 0. An offset past the end of the text lies on
the last line.
-/
namespace BranchCount

/-- A position a reader can look up: line from 1, column from 0. -/
structure Position where
  line : Nat
  col : Nat
deriving Repr, DecidableEq, Inhabited

/-- The positions of the first byte of something and of the byte behind it. -/
structure Span where
  line : Nat
  col : Nat
  endLine : Nat
  endCol : Nat
deriving Repr, DecidableEq, Inhabited

/-- Offsets just behind each line end of the given bytes, the first of which has offset `offset`. -/
def lineStarts (offset : Nat) : List UInt8 → List Nat
  | [] => []
  | b :: rest =>
    if b = 10 ∨ (b = 13 ∧ rest.head? ≠ some 10) then
      (offset + 1) :: lineStarts (offset + 1) rest
    else
      lineStarts (offset + 1) rest

structure LineTable where
  starts : List Nat
deriving Repr, DecidableEq, Inhabited

namespace LineTable

def ofBytes (bytes : List UInt8) : LineTable :=
  ⟨0 :: lineStarts 0 bytes⟩

def ofText (text : String) : LineTable :=
  ofBytes text.toUTF8.toList

def lineCount (t : LineTable) : Nat :=
  t.starts.length

def reached (t : LineTable) (offset : Nat) : List Nat :=
  t.starts.takeWhile (· ≤ offset)

/-- The last line that starts at or before the offset, and the distance from that start. -/
def position (t : LineTable) (offset : Nat) : Position :=
  let before := t.reached offset
  ⟨before.length, offset - before.getLastD 0⟩

def line (t : LineTable) (offset : Nat) : Nat :=
  (t.position offset).line

def span (t : LineTable) (start stop : Nat) : Span :=
  let first := t.position start
  let last := t.position stop
  ⟨first.line, first.col, last.line, last.col⟩

end LineTable

end BranchCount
