import BranchCount.Proofs.Lines
import BranchCount.Proofs.Relabelling
import BranchCount.Rules.Preset

/-!
Whole lines put before a text. The lines of the longer text are those in front and then those of the
text itself, so that every position of the text keeps its column and moves down by as many lines as
stand in front. If the ranges of a module move by the bytes in front, its records change in nothing
but these line numbers.
-/
namespace BranchCount

/-- Bytes in front of others are whole lines: none, or a line end comes last. A carriage return must
not become the first half of a longer line end. -/
def WholeLines (front rest : List UInt8) : Prop :=
  front = [] ∨ front.getLast? = some 10 ∨ (front.getLast? = some 13 ∧ rest.head? ≠ some 10)

namespace WholeLines

variable {ending front rest : List UInt8}

theorem drop_line {content : List UInt8}
    (whole : WholeLines (content ++ ending ++ front) rest) : WholeLines front rest := by
  cases front with
  | nil => exact .inl rfl
  | cons b front =>
    have last : (content ++ ending ++ b :: front).getLast? = (b :: front).getLast? :=
      List.getLast?_append_of_ne_nil _ (by simp)
    rw [WholeLines, last] at whole
    rcases whole with empty | whole
    · simp at empty
    · exact .inr whole

/-- What ends a line in front ends it in the longer text as well. -/
theorem lineEnd {content : List UInt8} (ends : LineEnd ending front)
    (whole : WholeLines (content ++ ending ++ front) rest) : LineEnd ending (front ++ rest) := by
  cases ends with
  | feed => exact .feed _
  | both => exact .both _
  | carriage alone =>
    apply LineEnd.carriage
    cases front with
    | cons b front => exact alone
    | nil =>
      -- the carriage return is the last byte in front, so what follows it is new
      rcases whole with empty | feed | ⟨-, follows⟩
      · simp at empty
      · simp at feed
      · exact follows

end WholeLines

theorem Lines.append {front rest : List UInt8} {lines more : List (List UInt8)}
    (split : Lines front lines) (following : Lines rest more) (whole : WholeLines front rest) :
    ∃ first, lines = first ++ [[]] ∧ Lines (front ++ rest) (first ++ more) := by
  induction split with
  | @last front unbroken =>
    have empty : front = [] := by
      rcases whole with empty | feed | ⟨carriage, -⟩
      · exact empty
      · exact absurd rfl (unbroken _ (List.mem_of_getLast? feed)).1
      · exact absurd rfl (unbroken _ (List.mem_of_getLast? carriage)).2
    subst empty
    exact ⟨[], rfl, following⟩
  | @next content ending front lines unbroken ends behind ih =>
    obtain ⟨first, rfl, joined⟩ := ih whole.drop_line
    refine ⟨(content ++ ending) :: first, rfl, ?_⟩
    rw [List.append_assoc]
    exact .next unbroken (whole.lineEnd ends) joined

/-- Behind whole lines the columns stay, and each line moves down by the lines in front. -/
theorem position_behind {front rest : List UInt8} (whole : WholeLines front rest) (offset : Nat) :
    (LineTable.ofBytes (front ++ rest)).position (offset + front.length) =
      ⟨((LineTable.ofBytes rest).position offset).line + ((LineTable.ofBytes front).lineCount - 1),
        ((LineTable.ofBytes rest).position offset).col⟩ := by
  obtain ⟨lines, split⟩ := Lines.exists_of_bytes front
  obtain ⟨more, following⟩ := Lines.exists_of_bytes rest
  obtain ⟨first, rfl, joined⟩ := split.append following whole
  obtain ⟨place, stands⟩ := exists_stands following.ne_nil offset
  have size : first.flatten.length = front.length := by
    rw [← split.flatten_eq]
    simp
  have count : (LineTable.ofBytes front).lineCount - 1 = first.length := by
    rw [split.lineCount_eq]
    simp
  have moved := joined.position_eq (stands.behind first)
  rw [size, Nat.add_comm] at moved
  rw [moved, following.position_eq stands, count, Nat.add_comm]

namespace Relabel

/-- Every range lies so many bytes further on. -/
def shift (bytes : Nat) : Relabel where
  offset n := n + bytes

end Relabel

def Contribution.lowered (lines : Nat) (k : Contribution) : Contribution :=
  { k with line := k.line + lines }

def Span.lowered (lines : Nat) (s : Span) : Span :=
  { s with line := s.line + lines, endLine := s.endLine + lines }

/-- The record of the same function so many lines further down the text. -/
def FunctionRecord.lowered (lines : Nat) (f : FunctionRecord) : FunctionRecord :=
  { f with
    span := f.span.lowered lines
    contributions := f.contributions.map (·.lowered lines) }

section Moved

variable {lines moved : LineTable} {bytes down : Nat}
  (places : ∀ offset, moved.position (offset + bytes) =
    ⟨(lines.position offset).line + down, (lines.position offset).col⟩)

include places

theorem kept_lowered (rules : RuleSet) (points : List Point) :
    Counting.kept ⟨rules, moved⟩ (points.map (Relabel.shift bytes).point) =
      (Counting.kept ⟨rules, lines⟩ points).map (·.lowered down) := by
  have line (offset : Nat) : moved.line (offset + bytes) = lines.line offset + down :=
    congrArg Position.line (places offset)
  have one (p : Point) : Counting.contribution ⟨rules, moved⟩ ((Relabel.shift bytes).point p) =
      (Counting.contribution ⟨rules, lines⟩ p).lowered down := by
    simp [Counting.contribution, Relabel.point, Relabel.shift, Contribution.lowered, line]
  rw [Counting.kept, List.filter_map, List.map_map, Counting.kept, List.map_map]
  exact List.map_congr_left fun p _ => one p

theorem toRecord_lowered (rules : RuleSet) (d : Definition) :
    ((Relabel.shift bytes).definition d).toRecord ⟨rules, moved⟩ =
      (d.toRecord ⟨rules, lines⟩).lowered down := by
  have span : moved.span (d.range.start + bytes) (d.range.stop + bytes) =
      (lines.span d.range.start d.range.stop).lowered down := by
    simp [LineTable.span, Span.lowered, places]
  have contributions : Counting.kept ⟨rules, moved⟩ ((Relabel.shift bytes).definition d).points =
      (Counting.kept ⟨rules, lines⟩ d.points).map (·.lowered down) := by
    rw [Relabel.definition_points, kept_lowered places]
  have amounts (ks : List Contribution) :
      total ((ks.map (·.lowered down)).map (·.amount)) = total (ks.map (·.amount)) := by
    rw [List.map_map]
    rfl
  have score : Counting.definition ⟨rules, moved⟩ ((Relabel.shift bytes).definition d) =
      ⟨(Counting.definition ⟨rules, lines⟩ d).complexity,
        (Counting.definition ⟨rules, lines⟩ d).contributions.map (·.lowered down)⟩ := by
    rw [Counting.definition_kept, contributions, Counting.definition_kept]
    simp only [Score.plus, amounts, List.nil_append]
  rw [Definition.toRecord, score]
  simp [Definition.toRecord, FunctionRecord.lowered, Relabel.definition, Relabel.range,
    Relabel.flag, Relabel.shift, span]

end Moved

theorem wholeLines_text {front text : String}
    (whole : front = "" ∨ front.toList.getLast? = some '\n' ∨
      (front.toList.getLast? = some '\r' ∧ text.toList.head? ≠ some '\n')) :
    WholeLines front.toUTF8.toList text.toUTF8.toList := by
  rw [WholeLines, toUTF8_toList, toUTF8_toList]
  rcases whole with rfl | feed | ⟨carriage, alone⟩
  · exact .inl rfl
  · obtain ⟨first, ends⟩ := List.getLast?_eq_some_iff.mp feed
    refine .inr (.inl ?_)
    rw [ends, List.flatMap_append]
    exact List.getLast?_concat
  · obtain ⟨first, ends⟩ := List.getLast?_eq_some_iff.mp carriage
    refine .inr (.inr ⟨?_, ?_⟩)
    · rw [ends, List.flatMap_append]
      exact List.getLast?_concat
    · intro starts
      cases characters : text.toList with
      | nil =>
        rw [characters] at starts
        cases starts
      | cons c rest =>
        rw [characters] at starts alone
        have feed := utf8EncodeChar_feed starts
        exact alone (congrArg some feed)

/-- Whole lines in front of a text, with every range moved by their bytes, add their number to the
line numbers in all records and change nothing else. -/
theorem discoverFunctions_shift (rules : RuleSet) (front text : String) (module : List Stmt)
    (whole : front = "" ∨ front.toList.getLast? = some '\n' ∨
      (front.toList.getLast? = some '\r' ∧ text.toList.head? ≠ some '\n')) :
    discoverFunctions ⟨rules, .ofText (front ++ text)⟩
        ((Relabel.shift front.utf8ByteSize).body module) =
      (discoverFunctions ⟨rules, .ofText text⟩ module).map
        (·.lowered ((LineTable.ofText front).lineCount - 1)) := by
  have joined : (front ++ text).toUTF8.toList = front.toUTF8.toList ++ text.toUTF8.toList := by
    rw [toUTF8_toList, toUTF8_toList, toUTF8_toList, String.toList_append, List.flatMap_append]
  have places (offset : Nat) :
      (LineTable.ofText (front ++ text)).position (offset + front.utf8ByteSize) =
        ⟨((LineTable.ofText text).position offset).line + ((LineTable.ofText front).lineCount - 1),
          ((LineTable.ofText text).position offset).col⟩ := by
    rw [LineTable.ofText, joined, ← toUTF8_length]
    exact position_behind (wholeLines_text whole) offset
  exact (Relabel.shift front.utf8ByteSize).discover_body (toRecord_lowered places rules) module

theorem discoverFunctions_shift_comment :
    let front := "# é\r\n\r"
    let text := "def f(x):\n  if x: pass\n"
    let module : List Stmt :=
      [.funcDef ⟨0, 22⟩ "f" [.mk .positional "x" none none]
        [.conditional ⟨12, 22⟩ (.name ⟨15, 16⟩) [.inert ⟨18, 22⟩ .pass] []] [] none]
    let before := discoverFunctions ⟨Preset.standardRules, .ofText text⟩ module
    let after := discoverFunctions ⟨Preset.standardRules, .ofText (front ++ text)⟩
      ((Relabel.shift front.utf8ByteSize).body module)
    front.toList.getLast? = some '\r' ∧ text.toList.head? ≠ some '\n' ∧
    before.map (fun f => (f.span.line, f.contributions.map (·.line))) = [(1, [2])] ∧
    after.map (fun f => (f.span.line, f.contributions.map (·.line))) = [(3, [4])] ∧
    after = before.map (·.lowered ((LineTable.ofText front).lineCount - 1)) := by
  intro front text module before after
  have ends : front.toList.getLast? = some '\r' := by decide +kernel
  have starts : text.toList.head? ≠ some '\n' := by decide +kernel
  refine ⟨ends, starts, by decide +kernel, by decide +kernel, ?_⟩
  exact discoverFunctions_shift Preset.standardRules front text module (.inr (.inr ⟨ends, starts⟩))

end BranchCount
