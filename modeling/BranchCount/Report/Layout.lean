import BranchCount.Text.Width

/-!
Padding, rules and tables.
-/
namespace BranchCount.Layout

def spaces (n : Nat) : String :=
  String.ofList (List.replicate n ' ')

def padRight (width : Nat) (text : String) : String :=
  text ++ spaces (width - text.length)

def padLeft (width : Nat) (text : String) : String :=
  spaces (width - text.length) ++ text

def rule (width : Nat) : String :=
  String.ofList (List.replicate width '=')

structure Border where
  left : Char
  fill : Char
  joint : Char
  right : Char

structure Frame where
  top : Border
  underHeader : Border
  betweenRows : Border
  bottom : Border
  edge : Char
  separator : Char

def asciiFrame : Frame where
  top := ⟨'+', '-', '+', '+'⟩
  underHeader := ⟨'+', '=', '=', '+'⟩
  betweenRows := ⟨'|', '-', '+', '|'⟩
  bottom := ⟨'+', '-', '+', '+'⟩
  edge := '|'
  separator := '|'

def boxFrame : Frame where
  top := ⟨'┌', '─', '┬', '┐'⟩
  underHeader := ⟨'╞', '═', '╪', '╡'⟩
  betweenRows := ⟨'├', '╌', '┼', '┤'⟩
  bottom := ⟨'└', '─', '┴', '┘'⟩
  edge := '│'
  separator := '┆'

/-- The lines of a text, which a cell shows below each other. -/
def cellLines (text : List Char) : List (List Char) :=
  match text with
  | [] => [[]]
  | '\n' :: rest => [] :: cellLines rest
  | c :: rest =>
    match cellLines rest with
    | line :: lines => (c :: line) :: lines
    | [] => [[c]]

def cellWidth (cell : List (List Char)) : Nat :=
  (cell.map Text.width).foldl max 0

/-- The widths of the columns of a table: that of the widest cell in each. -/
def columnWidths : List (List (List (List Char))) → List Nat
  | [] => []
  | [row] => row.map cellWidth
  | row :: rows => List.zipWith max (row.map cellWidth) (columnWidths rows)

def joinWith (joint : Char) : List (List Char) → List Char
  | [] => []
  | [part] => part
  | part :: parts => part ++ joint :: joinWith joint parts

/-- A horizontal line: each column is as wide as its cells with a blank on either side. -/
def borderLine (b : Border) (widths : List Nat) : List Char :=
  b.left :: joinWith b.joint (widths.map fun w => List.replicate (w + 2) b.fill) ++ [b.right]

def padCell (width : Nat) (line : List Char) : List Char :=
  ' ' :: line ++ List.replicate (width - Text.width line) ' ' ++ [' ']

def rowLines (frame : Frame) (widths : List Nat) (row : List (List (List Char))) :
    List (List Char) :=
  let height := (row.map List.length).foldl max 0
  (List.range height).map fun i =>
    let parts := List.zipWith (fun width cell => padCell width (cell.getD i [])) widths row
    frame.edge :: joinWith frame.separator parts ++ [frame.edge]

/-- The rows with a line between each two of them. -/
def bodyLines (frame : Frame) (widths : List Nat) :
    List (List (List (List Char))) → List (List Char)
  | [] => []
  | [row] => rowLines frame widths row
  | row :: rows =>
    rowLines frame widths row ++ borderLine frame.betweenRows widths ::
      bodyLines frame widths rows

def table (frame : Frame) (header : List String) (rows : List (List String)) : String :=
  let cells := (header :: rows).map fun row => row.map fun text => cellLines text.toList
  let widths := columnWidths cells
  let lines :=
    [borderLine frame.top widths] ++ (cells.take 1).flatMap (rowLines frame widths) ++
    [borderLine frame.underHeader widths] ++ bodyLines frame widths (cells.drop 1) ++
    [borderLine frame.bottom widths]
  String.ofList (joinWith '\n' lines)

end BranchCount.Layout
