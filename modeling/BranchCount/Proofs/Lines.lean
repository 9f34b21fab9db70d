import Mathlib.Data.List.TakeWhile
import BranchCount.Proofs.TextBytes
import BranchCount.Source.LineTable

/-!
The lines of a text. A text falls into lines in one way: each line but the last ends in a line end and
holds no other, and the last holds none. The line table lists where these lines start, and so looking
up an offset gives the line it lies on and the place in that line.
-/
namespace BranchCount

def Unbroken (bytes : List UInt8) : Prop :=
  ∀ b ∈ bytes, b ≠ 10 ∧ b ≠ 13

/- What ends a line is said together with the bytes behind it, because a carriage return before a line
feed is only the first half of a line end. -/
inductive LineEnd : List UInt8 → List UInt8 → Prop
  | feed (rest : List UInt8) : LineEnd [10] rest
  | both (rest : List UInt8) : LineEnd [13, 10] rest
  | carriage {rest : List UInt8} (alone : rest.head? ≠ some 10) : LineEnd [13] rest

/-- The lines of a text, each with the bytes that end it. -/
inductive Lines : List UInt8 → List (List UInt8) → Prop
  | last {bytes : List UInt8} (unbroken : Unbroken bytes) : Lines bytes [bytes]
  | next {content ending rest : List UInt8} {lines : List (List UInt8)}
      (unbroken : Unbroken content) (ends : LineEnd ending rest) (following : Lines rest lines) :
      Lines (content ++ ending ++ rest) ((content ++ ending) :: lines)

theorem unbroken_cons {b : UInt8} {bytes : List UInt8} (plain : b ≠ 10 ∧ b ≠ 13)
    (unbroken : Unbroken bytes) : Unbroken (b :: bytes) := by
  intro x member
  rcases List.mem_cons.mp member with rfl | later
  · exact plain
  · exact unbroken x later

namespace Lines

theorem ne_nil {bytes : List UInt8} {lines : List (List UInt8)} (split : Lines bytes lines) :
    lines ≠ [] := by
  cases split <;> simp

theorem flatten_eq {bytes : List UInt8} {lines : List (List UInt8)} (split : Lines bytes lines) :
    lines.flatten = bytes := by
  induction split with
  | last unbroken => simp
  | next unbroken ends following ih => rw [List.flatten_cons, ih]

theorem of_end {ending rest : List UInt8} {lines : List (List UInt8)} (ends : LineEnd ending rest)
    (following : Lines rest lines) : Lines (ending ++ rest) (ending :: lines) := by
  have unbroken : Unbroken [] := by simp [Unbroken]
  exact .next unbroken ends following

/-- A byte that ends nothing joins the first line. -/
theorem prepend {b : UInt8} {bytes : List UInt8} {lines : List (List UInt8)}
    (plain : b ≠ 10 ∧ b ≠ 13) (split : Lines bytes lines) : ∃ more, Lines (b :: bytes) more := by
  cases split with
  | last unbroken => exact ⟨_, .last (unbroken_cons plain unbroken)⟩
  | next unbroken ends following => exact ⟨_, .next (unbroken_cons plain unbroken) ends following⟩

theorem exists_of_bytes : (bytes : List UInt8) → ∃ lines, Lines bytes lines
  | [] => ⟨[[]], .last (by simp [Unbroken])⟩
  | b :: rest => by
    obtain ⟨lines, split⟩ := exists_of_bytes rest
    by_cases feed : b = 10
    · subst feed
      exact ⟨_, of_end (.feed rest) split⟩
    · by_cases carriage : b = 13
      · subst carriage
        by_cases followed : rest.head? = some 10
        · -- the two are one line end, and what follows the line feed is split anew
          obtain ⟨more, rfl⟩ := List.head?_eq_some_iff.mp followed
          obtain ⟨lines, split⟩ := exists_of_bytes more
          exact ⟨_, of_end (.both more) split⟩
        · exact ⟨_, of_end (.carriage followed) split⟩
      · exact prepend ⟨feed, carriage⟩ split
termination_by bytes => bytes.length

end Lines

/- The line table of a text lists the starts of its lines. -/

theorem lineStarts_unbroken {content : List UInt8} (unbroken : Unbroken content) (offset : Nat)
    (rest : List UInt8) :
    lineStarts offset (content ++ rest) = lineStarts (offset + content.length) rest := by
  induction content generalizing offset with
  | nil => rfl
  | cons b content ih =>
    have plain := unbroken b List.mem_cons_self
    have inside : Unbroken content := fun x member => unbroken x (List.mem_cons_of_mem b member)
    rw [List.cons_append, lineStarts, if_neg (by simp [plain]), ih inside, List.length_cons,
      Nat.add_assoc, Nat.add_comm 1]

theorem lineStarts_end {ending rest : List UInt8} (ends : LineEnd ending rest) (offset : Nat) :
    lineStarts offset (ending ++ rest) =
      (offset + ending.length) :: lineStarts (offset + ending.length) rest := by
  cases ends with
  | feed => simp [lineStarts]
  | both => simp [lineStarts]
  | carriage alone => simp [lineStarts, alone]

def startsFrom (offset : Nat) : List (List UInt8) → List Nat
  | [] => []
  | line :: rest => offset :: startsFrom (offset + line.length) rest

theorem length_startsFrom (offset : Nat) (lines : List (List UInt8)) :
    (startsFrom offset lines).length = lines.length := by
  induction lines generalizing offset with
  | nil => rfl
  | cons line rest ih => simp [startsFrom, ih]

theorem startsFrom_append (offset : Nat) (xs ys : List (List UInt8)) :
    startsFrom offset (xs ++ ys) =
      startsFrom offset xs ++ startsFrom (offset + xs.flatten.length) ys := by
  induction xs generalizing offset with
  | nil => rfl
  | cons line rest ih =>
    rw [List.cons_append, startsFrom, startsFrom, ih, List.flatten_cons, List.length_append,
      Nat.add_assoc, List.cons_append]

theorem startsFrom_le {offset n : Nat} {lines : List (List UInt8)}
    (member : n ∈ startsFrom offset lines) : n ≤ offset + lines.flatten.length := by
  induction lines generalizing offset with
  | nil => cases member
  | cons line rest ih =>
    rw [List.flatten_cons, List.length_append]
    rcases List.mem_cons.mp member with rfl | later
    · omega
    · have bound := ih later
      omega

/-- Where its lines start, and the text they make up, determine the lines. -/
theorem startsFrom_injective {offset : Nat} {xs ys : List (List UInt8)}
    (starts : startsFrom offset xs = startsFrom offset ys) (text : xs.flatten = ys.flatten) :
    xs = ys := by
  induction xs generalizing offset ys with
  | nil =>
    cases ys with
    | nil => rfl
    | cons y ys => cases starts
  | cons x xs ih =>
    cases ys with
    | nil => cases starts
    | cons y ys =>
      have later := (List.cons.inj starts).2
      -- A line ends where the next one starts; the last line is what is left of the text.
      cases xs with
      | nil =>
        cases ys with
        | nil => simpa using text
        | cons => cases later
      | cons =>
        cases ys with
        | nil => cases later
        | cons =>
          have start := (List.cons.inj later).1
          have size : x.length = y.length := Nat.add_left_cancel start
          have parts := List.append_inj (by simpa using text) size
          rw [size] at later
          rw [parts.1, ih later (by simpa using parts.2)]

namespace Lines

variable {bytes : List UInt8} {lines : List (List UInt8)}

theorem starts (split : Lines bytes lines) (offset : Nat) :
    offset :: lineStarts offset bytes = startsFrom offset lines := by
  induction split generalizing offset with
  | @last bytes unbroken =>
    have none := lineStarts_unbroken unbroken offset []
    rw [List.append_nil] at none
    rw [none]
    rfl
  | @next content ending rest lines unbroken ends following ih =>
    rw [List.append_assoc, lineStarts_unbroken unbroken, lineStarts_end ends, ih, startsFrom,
      List.length_append, Nat.add_assoc]

theorem unique {others : List (List UInt8)} (split : Lines bytes lines)
    (again : Lines bytes others) : others = lines := by
  have starts : startsFrom 0 others = startsFrom 0 lines := by
    rw [← again.starts, ← split.starts]
  have text : others.flatten = lines.flatten := by
    rw [again.flatten_eq, split.flatten_eq]
  exact startsFrom_injective starts text

theorem lineCount_eq (split : Lines bytes lines) :
    (LineTable.ofBytes bytes).lineCount = lines.length := by
  rw [LineTable.lineCount, LineTable.ofBytes, split.starts, length_startsFrom]

end Lines

/-- A position names the line on which an offset lies and how far it is from the start of that line.
On the last line it may lie behind the end of the text. -/
def Stands (lines : List (List UInt8)) (offset : Nat) (place : Position) : Prop :=
  ∃ before line after, lines = before ++ line :: after ∧ place.line = before.length + 1 ∧
    offset = before.flatten.length + place.col ∧ (place.col < line.length ∨ after = [])

theorem Stands.behind {lines : List (List UInt8)} {offset : Nat} {place : Position}
    (stands : Stands lines offset place) (first : List (List UInt8)) :
    Stands (first ++ lines) (first.flatten.length + offset)
      ⟨first.length + place.line, place.col⟩ := by
  obtain ⟨before, line, after, rfl, number, distance, on⟩ := stands
  refine ⟨first ++ before, line, after, by simp, ?_, ?_, on⟩
  · simp only [number, List.length_append]
    omega
  · simp only [distance, List.flatten_append, List.length_append]
    omega

theorem Stands.inside {lines : List (List UInt8)} {offset : Nat} {place : Position}
    (stands : Stands lines offset place) (within : offset < lines.flatten.length) :
    ∃ before line after, lines = before ++ line :: after ∧ place.col < line.length ∧
      offset = before.flatten.length + place.col ∧ place = ⟨before.length + 1, place.col⟩ := by
  obtain ⟨row, col⟩ := place
  obtain ⟨before, line, after, rfl, rfl, rfl, on⟩ := stands
  refine ⟨before, line, after, rfl, ?_, rfl, rfl⟩
  rcases on with on | rfl
  · exact on
  · simpa using within

theorem Stands.beyond {lines : List (List UInt8)} {offset : Nat} {place : Position}
    (stands : Stands lines offset place) (past : lines.flatten.length ≤ offset) :
    place = ⟨lines.length, offset - lines.dropLast.flatten.length⟩ := by
  obtain ⟨row, col⟩ := place
  obtain ⟨before, line, after, rfl, rfl, rfl, on⟩ := stands
  rcases on with on | rfl
  · simp only [List.flatten_append, List.flatten_cons, List.length_append] at past on
    omega
  · simp

theorem exists_stands {lines : List (List UInt8)} (nonempty : lines ≠ []) (offset : Nat) :
    ∃ place, Stands lines offset place := by
  induction lines generalizing offset with
  | nil => contradiction
  | cons line rest ih =>
    by_cases here : offset < line.length ∨ rest = []
    · exact ⟨⟨1, offset⟩, [], line, rest, rfl, rfl, by simp, here⟩
    · obtain ⟨far, more⟩ := not_or.mp here
      obtain ⟨place, stands⟩ := ih more (offset - line.length)
      have shifted := stands.behind [line]
      have distance : [line].flatten.length + (offset - line.length) = offset := by
        simp only [List.flatten_singleton]
        omega
      rw [distance] at shifted
      exact ⟨_, shifted⟩

/-- Of the line starts those up to the one of the offset's own line are not behind the offset. -/
theorem Lines.position_eq {bytes : List UInt8} {lines : List (List UInt8)}
    (split : Lines bytes lines) {offset : Nat} {place : Position}
    (stands : Stands lines offset place) : (LineTable.ofBytes bytes).position offset = place := by
  obtain ⟨row, col⟩ := place
  obtain ⟨before, line, after, rfl, rfl, rfl, on⟩ := stands
  have table : (LineTable.ofBytes bytes).starts = startsFrom 0 before ++
      before.flatten.length :: startsFrom (before.flatten.length + line.length) after := by
    rw [LineTable.ofBytes, split.starts, startsFrom_append, Nat.zero_add, startsFrom]
  have earlier : ∀ n ∈ startsFrom 0 before, n ≤ before.flatten.length + col := by
    intro n member
    have bound := startsFrom_le member
    omega
  have later : (startsFrom (before.flatten.length + line.length) after).takeWhile
      (· ≤ before.flatten.length + col) = [] := by
    cases after with
    | nil => rfl
    | cons next after =>
      -- the next line starts behind the offset, and so do all that follow
      rcases on with on | none
      · have behind : ¬ line.length ≤ col := by
          simpa using on
        simp [startsFrom, behind]
      · cases none
  have reached : (LineTable.ofBytes bytes).reached (before.flatten.length + col) =
      startsFrom 0 before ++ [before.flatten.length] := by
    rw [LineTable.reached, table, List.takeWhile_append_of_pos (by simpa using earlier),
      List.takeWhile_cons, later]
    simp
  rw [LineTable.position, reached]
  simp [length_startsFrom]

/-- The lines of a text are unique, the table has as many, and an offset in the text is looked up to
the line that holds its byte and the byte's place in it. Behind the text the columns of the last line
go on. -/
theorem ofText_lines (text : String) :
    ∃ lines, (∀ others, Lines text.toUTF8.toList others ↔ others = lines) ∧
      (LineTable.ofText text).lineCount = lines.length ∧
      (∀ offset < text.utf8ByteSize, ∃ before line after col,
        lines = before ++ line :: after ∧ col < line.length ∧
        offset = before.flatten.length + col ∧
        (LineTable.ofText text).position offset = ⟨before.length + 1, col⟩) ∧
      ∀ offset ≥ text.utf8ByteSize,
        (LineTable.ofText text).position offset =
          ⟨lines.length, offset - lines.dropLast.flatten.length⟩ := by
  obtain ⟨lines, split⟩ := Lines.exists_of_bytes text.toUTF8.toList
  have size : lines.flatten.length = text.utf8ByteSize := by
    rw [split.flatten_eq, toUTF8_length]
  have looked (offset : Nat) :
      Stands lines offset ((LineTable.ofText text).position offset) := by
    obtain ⟨place, stands⟩ := exists_stands split.ne_nil offset
    have found : (LineTable.ofText text).position offset = place := split.position_eq stands
    rwa [found]
  refine ⟨lines, ?unique, split.lineCount_eq, ?inside, ?behind⟩
  case unique =>
    intro others
    constructor
    · exact split.unique
    · rintro rfl
      exact split
  case inside =>
    intro offset within
    obtain ⟨before, line, after, parts, on, distance, place⟩ :=
      (looked offset).inside (by rwa [size])
    exact ⟨before, line, after, _, parts, on, distance, place⟩
  case behind =>
    intro offset past
    exact (looked offset).beyond (by rwa [size])

/-- The line feed of a longer line end, and an offset behind a text without a line end at its end. -/
theorem ofText_lines_mixed :
    let text := "é\r\n\rb\nc"
    let table := LineTable.ofText text
    3 < text.utf8ByteSize ∧ 10 ≥ text.utf8ByteSize ∧ table.lineCount = 4 ∧
    table.position 3 = ⟨1, 3⟩ ∧ table.position 10 = ⟨4, 3⟩ ∧
    ∃ lines, Lines text.toUTF8.toList lines ∧ lines.length = 4 ∧
      (∃ before line after col, lines = before ++ line :: after ∧ col < line.length ∧
        3 = before.flatten.length + col ∧ table.position 3 = ⟨before.length + 1, col⟩) ∧
      table.position 10 = ⟨lines.length, 10 - lines.dropLast.flatten.length⟩ := by
  intro text table
  have inText : 3 < text.utf8ByteSize := by decide +kernel
  have behindText : 10 ≥ text.utf8ByteSize := by decide +kernel
  have count : table.lineCount = 4 := by decide +kernel
  obtain ⟨lines, unique, same, inside, behind⟩ := ofText_lines text
  refine ⟨inText, behindText, count, by decide +kernel, by decide +kernel, lines, ?_⟩
  exact ⟨(unique lines).mpr rfl, same.symm.trans count, inside 3 inText, behind 10 behindText⟩

end BranchCount
