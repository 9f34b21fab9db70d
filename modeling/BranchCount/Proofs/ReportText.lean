import BranchCount.Report.Detailed

/-!
What the parts of a report are made of: numbers of digits, doubles of digits and a few other
characters, rules and paddings of one character, and tables of the characters of their frame, of
blanks and of the texts of their cells.
-/
namespace BranchCount

/-- Every character of the text is as `P` says. -/
def Made (P : Char → Prop) (text : String) : Prop :=
  ∀ c ∈ text.toList, P c

section Made

variable {P : Char → Prop}

@[simp] theorem made_append {a b : String} : Made P (a ++ b) ↔ Made P a ∧ Made P b := by
  unfold Made
  rw [String.toList_append, List.forall_mem_append]

theorem made_empty : Made P "" := by
  simp [Made]

theorem made_ofList {cs : List Char} : Made P (String.ofList cs) ↔ ∀ c ∈ cs, P c := by
  unfold Made
  rw [String.toList_ofList]

theorem made_join {pieces : List String} (all : ∀ piece ∈ pieces, Made P piece) :
    Made P (String.join pieces) := by
  intro c member
  rw [String.toList_join, List.mem_flatMap] at member
  obtain ⟨piece, inside, here⟩ := member
  exact all piece inside c here

theorem made_lines (feed : P '\n') {lines : List String} (all : ∀ line ∈ lines, Made P line) :
    Made P (String.join (lines.map (· ++ "\n"))) := by
  have ending : Made P "\n" := by simpa [Made] using feed
  apply made_join
  intro text member
  obtain ⟨line, listed, rfl⟩ := List.mem_map.mp member
  exact made_append.mpr ⟨all line listed, ending⟩

theorem made_intercalate {separator : String} {pieces : List String} (between : Made P separator)
    (all : ∀ piece ∈ pieces, Made P piece) : Made P (separator.intercalate pieces) := by
  induction pieces with
  | nil => exact made_empty
  | cons piece rest ih =>
    obtain ⟨first, others⟩ := List.forall_mem_cons.mp all
    cases rest with
    | nil => rwa [String.intercalate_singleton]
    | cons next rest =>
      rw [String.intercalate_cons_cons, made_append, made_append]
      exact ⟨⟨first, between⟩, ih others⟩

theorem made_replicate {c : Char} (here : P c) (n : Nat) :
    Made P (String.ofList (List.replicate n c)) := by
  rw [made_ofList]
  intro d member
  rwa [(List.mem_replicate.mp member).2]

theorem made_nat (digits : ∀ c, c.isDigit = true → P c) (n : Nat) : Made P n.repr := by
  intro c member
  rw [Nat.toList_repr] at member
  exact digits c (Nat.isDigit_of_mem_toDigits (by decide) (by decide) member)

theorem made_withPoint (digits : ∀ c, c.isDigit = true → P c) (point : P '.') (places n : Nat) :
    Made P (Decimal.withPoint places n) := by
  unfold Decimal.withPoint
  split
  · exact made_nat digits n
  · have zero : P '0' := digits '0' rfl
    have mark : Made P "." := by simpa [Made] using point
    unfold Decimal.padZeros
    rw [made_append, made_append, made_append]
    exact ⟨⟨made_nat digits _, mark⟩, made_replicate zero _, made_nat digits _⟩

/-- Besides digits a double has a point and a sign, or it is written as a word. -/
theorem made_fixed (digits : ∀ c, c.isDigit = true → P c) (others : Made P "-.infNaN")
    (places : Nat) (x : Float) : Made P (Decimal.fixed places x) := by
  simp only [Made, String.reduceToList, List.forall_mem_cons] at others
  obtain ⟨sign, point, i, n, f, upper, a, -⟩ := others
  unfold Decimal.fixed
  cases Decimal.Reading.ofFloat x with
  | finite b =>
    rw [made_append]
    refine ⟨?_, made_withPoint digits point _ _⟩
    split
    · simpa [Made] using sign
    · exact made_empty
  | infinite negative =>
    cases negative
    · simp [Made, i, n, f]
    · simp [Made, sign, i, n, f]
  | notANumber => simp [Made, upper, a]

end Made

namespace Layout

variable {P : Char → Prop}

theorem made_rule (here : P '=') (width : Nat) : Made P (rule width) :=
  made_replicate here width

theorem made_padLeft (blank : P ' ') {text : String} (made : Made P text) (width : Nat) :
    Made P (padLeft width text) := by
  unfold padLeft spaces
  rw [made_append]
  exact ⟨made_replicate blank _, made⟩

theorem made_padRight (blank : P ' ') {text : String} (made : Made P text) (width : Nat) :
    Made P (padRight width text) := by
  unfold padRight spaces
  rw [made_append]
  exact ⟨made, made_replicate blank _⟩

/- Tables. -/

def Border.characters (b : Border) : List Char :=
  [b.left, b.fill, b.joint, b.right]

/-- A frame of which every character is as `P` says. -/
structure Frame.Drawn (P : Char → Prop) (frame : Frame) : Prop where
  top : ∀ c ∈ frame.top.characters, P c
  underHeader : ∀ c ∈ frame.underHeader.characters, P c
  betweenRows : ∀ c ∈ frame.betweenRows.characters, P c
  bottom : ∀ c ∈ frame.bottom.characters, P c
  edge : P frame.edge
  separator : P frame.separator

/-- The lines of a cell hold nothing but its text. -/
theorem mem_cellLines {text line : List Char} {c : Char} (member : line ∈ cellLines text)
    (here : c ∈ line) : c ∈ text := by
  fun_induction cellLines text generalizing line with
  | case1 =>
    rw [List.mem_singleton.mp member] at here
    exact here
  | case2 rest ih =>
    rcases List.mem_cons.mp member with rfl | later
    · cases here
    · exact List.mem_cons_of_mem _ (ih later here)
  | case3 d rest _ first lines split ih =>
    rcases List.mem_cons.mp member with rfl | later
    · rcases List.mem_cons.mp here with rfl | inside
      · exact List.mem_cons_self
      · exact List.mem_cons_of_mem _ (ih (split ▸ List.mem_cons_self) inside)
    · exact List.mem_cons_of_mem _ (ih (split ▸ List.mem_cons_of_mem _ later) here)
  | case4 d rest _ _ ih =>
    rw [List.mem_singleton.mp member, List.mem_singleton] at here
    rw [here]
    exact List.mem_cons_self

theorem joinWith_made {joint : Char} {parts : List (List Char)} (between : P joint)
    (all : ∀ part ∈ parts, ∀ c ∈ part, P c) : ∀ c ∈ joinWith joint parts, P c := by
  induction parts with
  | nil => simp [joinWith]
  | cons part rest ih =>
    obtain ⟨first, others⟩ := List.forall_mem_cons.mp all
    cases rest with
    | nil => exact first
    | cons next rest =>
      rw [joinWith, List.forall_mem_append, List.forall_mem_cons]
      · exact ⟨first, between, ih others⟩
      · simp

theorem borderLine_made {b : Border} (drawn : ∀ c ∈ b.characters, P c) (widths : List Nat) :
    ∀ c ∈ borderLine b widths, P c := by
  simp only [Border.characters, List.forall_mem_cons] at drawn
  obtain ⟨left, fill, joint, right, -⟩ := drawn
  have filled : ∀ part ∈ widths.map fun w => List.replicate (w + 2) b.fill, ∀ c ∈ part, P c := by
    intro part member c inside
    obtain ⟨w, -, rfl⟩ := List.mem_map.mp member
    rwa [(List.mem_replicate.mp inside).2]
  rw [borderLine, List.forall_mem_append, List.forall_mem_cons, List.forall_mem_singleton]
  exact ⟨⟨left, joinWith_made joint filled⟩, right⟩

theorem padCell_made (blank : P ' ') {line : List Char} (all : ∀ c ∈ line, P c) (width : Nat) :
    ∀ c ∈ padCell width line, P c := by
  rw [padCell, List.forall_mem_append, List.forall_mem_append, List.forall_mem_cons,
    List.forall_mem_singleton]
  refine ⟨⟨⟨blank, all⟩, ?_⟩, blank⟩
  intro c member
  rwa [(List.mem_replicate.mp member).2]

section Rows

variable {frame : Frame} (drawn : frame.Drawn P) (blank : P ' ')

include drawn blank

theorem rowLines_made {row : List (List (List Char))}
    (cells : ∀ cell ∈ row, ∀ line ∈ cell, ∀ c ∈ line, P c) (widths : List Nat) :
    ∀ line ∈ rowLines frame widths row, ∀ c ∈ line, P c := by
  intro line member
  obtain ⟨i, -, rfl⟩ := List.mem_map.mp member
  have padded : ∀ part ∈ List.zipWith (fun width cell => padCell width (cell.getD i [])) widths row,
      ∀ c ∈ part, P c := by
    intro part inside
    rw [← List.map_uncurry_zip_eq_zipWith] at inside
    obtain ⟨⟨width, cell⟩, both, rfl⟩ := List.mem_map.mp inside
    apply padCell_made blank
    -- a cell with fewer lines than its row is empty below them
    rw [List.getD_eq_getElem?_getD]
    cases place : cell[i]? with
    | none => simp
    | some line => exact cells cell (List.of_mem_zip both).2 line (List.mem_of_getElem? place)
  rw [List.forall_mem_append, List.forall_mem_cons, List.forall_mem_singleton]
  exact ⟨⟨drawn.edge, joinWith_made drawn.separator padded⟩, drawn.edge⟩

theorem bodyLines_made {rows : List (List (List (List Char)))}
    (cells : ∀ row ∈ rows, ∀ cell ∈ row, ∀ line ∈ cell, ∀ c ∈ line, P c) (widths : List Nat) :
    ∀ line ∈ bodyLines frame widths rows, ∀ c ∈ line, P c := by
  have between := borderLine_made drawn.betweenRows widths
  induction rows with
  | nil => simp [bodyLines]
  | cons row rest ih =>
    obtain ⟨first, others⟩ := List.forall_mem_cons.mp cells
    have lines := rowLines_made drawn blank first widths
    cases rest with
    | nil => exact lines
    | cons next rest =>
      rw [bodyLines, List.forall_mem_append, List.forall_mem_cons]
      · exact ⟨lines, between, ih others⟩
      · simp

/-- A table is drawn with its frame, blanks, line feeds and the texts of its cells. -/
theorem made_table (feed : P '\n') {header : List String} {rows : List (List String)}
    (texts : ∀ row ∈ header :: rows, ∀ text ∈ row, Made P text) :
    Made P (table frame header rows) := by
  have cells : ∀ row ∈ (header :: rows).map fun row => row.map fun text => cellLines text.toList,
      ∀ cell ∈ row, ∀ line ∈ cell, ∀ c ∈ line, P c := by
    intro row member cell inside line place c here
    obtain ⟨listed, among, rfl⟩ := List.mem_map.mp member
    obtain ⟨text, shown, rfl⟩ := List.mem_map.mp inside
    exact texts listed among text shown c (mem_cellLines place here)
  rw [List.map_cons, List.forall_mem_cons] at cells
  unfold table
  rw [made_ofList]
  apply joinWith_made feed
  simp only [List.map_cons, List.take_succ_cons, List.take_zero, List.flatMap_cons,
    List.flatMap_nil, List.append_nil, List.drop_succ_cons, List.drop_zero,
    List.forall_mem_append, List.forall_mem_singleton]
  exact ⟨⟨⟨⟨borderLine_made drawn.top _, rowLines_made drawn blank cells.1 _⟩,
    borderLine_made drawn.underHeader _⟩, bodyLines_made drawn blank cells.2 _⟩,
    borderLine_made drawn.bottom _⟩

end Rows

end Layout

end BranchCount
