import BranchCount.Analysis.Source
import BranchCount.Proofs.Lines
import BranchCount.Proofs.Positions

/-!
The line table as a sorted list. It starts with 0, rises from entry to entry and stays inside the
text, so a search for an offset always leads to a line: the one that starts there, or the one in
front of the place where the offset could be put in. The start of that line and the column give the
offset back, and the place of a syntax error is the one of its offset, or of the end of the text if
that comes first.
-/
namespace BranchCount

/- Line starts behind the scanned bytes. -/

theorem lineStarts_bounds {offset n : Nat} {bytes : List UInt8}
    (member : n ∈ lineStarts offset bytes) : offset < n ∧ n ≤ offset + bytes.length := by
  induction bytes generalizing offset with
  | nil => cases member
  | cons b rest ih =>
    have later (inside : n ∈ lineStarts (offset + 1) rest) :
        offset < n ∧ n ≤ offset + (b :: rest).length := by
      obtain ⟨above, below⟩ := ih inside
      rw [List.length_cons]
      omega
    unfold lineStarts at member
    split at member
    · rcases List.mem_cons.mp member with rfl | inside
      · rw [List.length_cons]
        omega
      · exact later inside
    · exact later member

theorem lineStarts_increasing (offset : Nat) (bytes : List UInt8) :
    (lineStarts offset bytes).Pairwise (· < ·) := by
  induction bytes generalizing offset with
  | nil => exact .nil
  | cons b rest ih =>
    unfold lineStarts
    split
    · exact .cons (fun n member => (lineStarts_bounds member).1) (ih (offset + 1))
    · exact ih (offset + 1)

/-- What a search in a sorted list answers: where the value stands, or where it could be put in. -/
inductive SearchAnswer where
  | present (i : Nat)
  | absent (i : Nat)

namespace SearchAnswer

def Right (xs : List Nat) (x : Nat) : SearchAnswer → Prop
  | present i => xs[i]? = some x
  | absent i => i ≤ xs.length ∧ (∀ n ∈ xs.take i, n < x) ∧ ∀ n ∈ xs.drop i, x < n

/-- The index of the last entry that is not above the value. -/
def index : SearchAnswer → Nat
  | present i => i
  | absent i => i - 1

end SearchAnswer

namespace LineTable

/-- A position on one of the lines, whose start and column give the offset. -/
def Restores (t : LineTable) (offset : Nat) (place : Position) : Prop :=
  1 ≤ place.line ∧ place.line ≤ t.lineCount ∧
    ∃ start, t.starts[place.line - 1]? = some start ∧ start + place.col = offset

theorem starts_increasing (bytes : List UInt8) : (ofBytes bytes).starts.Pairwise (· < ·) :=
  .cons (fun _ member => (lineStarts_bounds member).1) (lineStarts_increasing 0 bytes)

theorem starts_le {bytes : List UInt8} {n : Nat} (member : n ∈ (ofBytes bytes).starts) :
    n ≤ bytes.length := by
  rcases List.mem_cons.mp member with rfl | later
  · exact Nat.zero_le _
  · have bounds := lineStarts_bounds later
    omega

theorem position_restores (bytes : List UInt8) (offset : Nat) :
    (ofBytes bytes).Restores offset ((ofBytes bytes).position offset) := by
  refine ⟨line_pos bytes offset, line_le_lineCount _ offset, ?_⟩
  have nonempty : (ofBytes bytes).reached offset ≠ [] :=
    List.ne_nil_of_length_pos (line_pos bytes offset)
  obtain ⟨before, start, reached⟩ := (List.eq_nil_or_concat _).resolve_left nonempty
  rw [List.concat_eq_append] at reached
  have initial : (ofBytes bytes).reached offset <+: (ofBytes bytes).starts :=
    List.takeWhile_prefix _
  obtain ⟨rest, split⟩ := initial
  have bound := (ofBytes bytes).reached_last_le offset
  rw [reached] at split bound
  rw [List.getLastD_concat] at bound
  have place : (ofBytes bytes).position offset = ⟨before.length + 1, offset - start⟩ := by
    simp [position, reached]
  rw [place, ← split]
  exact ⟨start, by simp, Nat.add_sub_cancel' bound⟩

theorem reached_of_split {t : LineTable} {offset : Nat} {front back : List Nat}
    (split : t.starts = front ++ back) (before : ∀ n ∈ front, n ≤ offset)
    (behind : ∀ n ∈ back, offset < n) : t.reached offset = front := by
  have none : back.takeWhile (· ≤ offset) = [] := by
    cases back with
    | nil => rfl
    | cons n rest =>
      have above := behind n List.mem_cons_self
      simp [Nat.not_le.mpr above]
  rw [reached, split, List.takeWhile_append_of_pos (by simpa using before), none, List.append_nil]

theorem line_of_present {t : LineTable} (increasing : t.starts.Pairwise (· < ·)) {offset i : Nat}
    (here : t.starts[i]? = some offset) : t.line offset = i + 1 := by
  obtain ⟨within, entry⟩ := List.getElem?_eq_some_iff.mp here
  have split : t.starts = t.starts.take i ++ offset :: t.starts.drop (i + 1) := by
    rw [← entry, ← List.drop_eq_getElem_cons within, List.take_append_drop]
  rw [split, List.pairwise_append, List.pairwise_cons] at increasing
  obtain ⟨-, ⟨later, -⟩, earlier⟩ := increasing
  have front : t.starts = (t.starts.take i ++ [offset]) ++ t.starts.drop (i + 1) := by
    rw [List.append_assoc, List.singleton_append]
    exact split
  have before : ∀ n ∈ t.starts.take i ++ [offset], n ≤ offset := by
    intro n member
    rcases List.mem_append.mp member with inside | last
    · exact Nat.le_of_lt (earlier n inside offset List.mem_cons_self)
    · exact Nat.le_of_eq (List.mem_singleton.mp last)
  have reached := reached_of_split front before later
  show (t.reached offset).length = i + 1
  rw [reached, List.length_append, List.length_take, List.length_singleton]
  omega

theorem line_of_absent {t : LineTable} {offset i : Nat} (within : i ≤ t.starts.length)
    (before : ∀ n ∈ t.starts.take i, n < offset) (behind : ∀ n ∈ t.starts.drop i, offset < n) :
    t.line offset = i := by
  have reached := reached_of_split (List.take_append_drop i t.starts).symm
    (fun n member => Nat.le_of_lt (before n member)) behind
  show (t.reached offset).length = i
  rw [reached, List.length_take]
  omega

/-- Whatever a search answers, if it is right the lookup is at its index. An offset is never put in
at the front, because the first entry is 0. -/
theorem line_of_search {bytes : List UInt8} {offset : Nat} {answer : SearchAnswer}
    (right : answer.Right (ofBytes bytes).starts offset) :
    (∀ i, answer = .absent i → 0 < i) ∧
      (ofBytes bytes).line offset = answer.index + 1 := by
  cases answer with
  | present i =>
    refine ⟨?_, line_of_present (starts_increasing bytes) right⟩
    intro i impossible
    cases impossible
  | absent i =>
    obtain ⟨within, before, behind⟩ := right
    have line := line_of_absent within before behind
    have positive : 0 < i := by
      have first := line_pos bytes offset
      omega
    constructor
    · rintro _ ⟨⟩
      exact positive
    · rw [line, SearchAnswer.index]
      omega

end LineTable

/-- The table begins with 0, rises and stays inside the text, so that the line of an offset can be
searched for and gives it back, and positions are in the order of their offsets. An error is placed
on a line of the text, at its offset or at the end of the text. -/
theorem ofText_lookup (text : String) :
    let table := LineTable.ofText text
    table.starts.head? = some 0 ∧ table.starts.Pairwise (· < ·) ∧
    (∀ n ∈ table.starts, n ≤ text.utf8ByteSize) ∧
    (∀ (offset : Nat) (answer : SearchAnswer), answer.Right table.starts offset →
      (∀ i, answer = .absent i → 0 < i) ∧
      (table.position offset).line = answer.index + 1 ∧
      ∃ start, table.starts[answer.index]? = some start ∧ start ≤ offset ∧
        (table.position offset).col = offset - start) ∧
    (∀ offset, table.Restores offset (table.position offset)) ∧
    (∀ a b, table.position a < table.position b ↔ a < b) ∧
    (∀ e : SourceError, ∃ place,
      e.locate text = .badSyntax e.problem.message place.line place.col ∧
      table.Restores (min e.offset text.utf8ByteSize) place) ∧
    ∀ (parse : ModuleParser) failure, ParsedModule.ofText parse text = .error failure →
      ∃ e, parse text = .error e ∧ failure = e.locate text := by
  intro table
  have restores (offset : Nat) : table.Restores offset (table.position offset) :=
    LineTable.position_restores _ offset
  refine ⟨rfl, LineTable.starts_increasing _, ?inside, ?search, restores, ?order, ?located, ?failed⟩
  case inside =>
    intro n member
    rw [← toUTF8_length]
    exact LineTable.starts_le member
  case search =>
    intro offset answer right
    obtain ⟨positive, line⟩ := LineTable.line_of_search right
    have line : (table.position offset).line = answer.index + 1 := line
    obtain ⟨-, -, start, entry, sum⟩ := restores offset
    refine ⟨positive, line, start, ?_, by omega, by omega⟩
    rwa [line, Nat.add_sub_cancel] at entry
  case order =>
    intro a b
    exact table.position_lt_iff
  case located =>
    intro e
    exact ⟨_, rfl, restores _⟩
  case failed =>
    intro parse failure failed
    unfold ParsedModule.ofText at failed
    cases parsed : parse text with
    | ok statements =>
      rw [parsed] at failed
      cases failed
    | error e =>
      rw [parsed] at failed
      cases failed
      exact ⟨e, rfl, rfl⟩

/-- An offset inside a line, one behind the text, and an error in a text with three kinds of line
ends. -/
theorem ofText_lookup_mixed :
    let text := "é = 1\r\rx\r\ndef f(:\n"
    let table := LineTable.ofText text
    table.starts = [0, 7, 8, 11, 19] ∧
    (SearchAnswer.absent 4).Right table.starts 17 ∧ 0 < 4 ∧ table.position 17 = ⟨4, 6⟩ ∧
    (SearchAnswer.present 4).Right table.starts 19 ∧ table.position 19 = ⟨5, 0⟩ ∧
    table.Restores 90 ⟨5, 71⟩ ∧
    ∃ failure e, ParsedModule.ofText parseModule text = .error failure ∧
      parseModule text = .error e ∧ failure = e.locate text ∧ failure.line? = some 4 := by
  intro text table
  have starts : table.starts = [0, 7, 8, 11, 19] := by decide +kernel
  have between : (SearchAnswer.absent 4).Right table.starts 17 := by
    rw [starts]
    simp [SearchAnswer.Right]
  have hit : (SearchAnswer.present 4).Right table.starts 19 := by
    rw [starts]
    rfl
  obtain ⟨-, -, -, search, restores, -, -, failed⟩ := ofText_lookup text
  refine ⟨starts, between, (search 17 _ between).1 4 rfl, by decide +kernel, hit,
    by decide +kernel, ?_, ?_⟩
  · have place : table.position 90 = ⟨5, 71⟩ := by decide +kernel
    rw [← place]
    exact restores 90
  · have line : (((ParsedModule.ofText parseModule text).map fun _ => none).tryCatch
        fun failure => .ok failure.line?).toOption = some (some 4) := by
      decide +kernel
    cases parsed : ParsedModule.ofText parseModule text with
    | ok m =>
      rw [parsed] at line
      cases line
    | error failure =>
      rw [parsed] at line
      obtain ⟨e, error, located⟩ := failed parseModule failure parsed
      exact ⟨failure, e, rfl, error, located, Option.some.inj line⟩

end BranchCount
