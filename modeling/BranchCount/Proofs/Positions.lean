import Mathlib.Data.List.TakeWhile
import BranchCount.Source.LineTable

/-!
Positions in a text. They are compared by line and then by column, and looking up offsets in a line
table keeps their order, also behind the end of the text.
-/
namespace BranchCount

namespace Position

instance : LT Position where
  lt p q := p.line < q.line ∨ p.line = q.line ∧ p.col < q.col

instance : LE Position where
  le p q := ¬ q < p

theorem lt_def {p q : Position} :
    p < q ↔ p.line < q.line ∨ p.line = q.line ∧ p.col < q.col := Iff.rfl

theorem le_def {p q : Position} : p ≤ q ↔ ¬ q < p := Iff.rfl

theorem lt_asymm {p q : Position} (before : p < q) : ¬ q < p := by
  rw [lt_def] at before ⊢
  omega

theorem lt_irrefl (p : Position) : ¬ p < p := fun before => lt_asymm before before

end Position

namespace Span

/-- The position of the first byte. -/
def start (s : Span) : Position :=
  ⟨s.line, s.col⟩

/-- The position behind the last byte. -/
def stop (s : Span) : Position :=
  ⟨s.endLine, s.endCol⟩

end Span

namespace LineTable

theorem reached_prefix (t : LineTable) {a b : Nat} (le : a ≤ b) : t.reached a <+: t.reached b := by
  have again : (t.reached b).takeWhile (· ≤ a) = t.reached a := by
    have both : (fun n : Nat => decide (n ≤ a) && decide (n ≤ b)) = fun n => decide (n ≤ a) := by
      funext n
      by_cases here : n ≤ a
      · simp [here, Nat.le_trans here le]
      · simp [here]
    simp [reached, List.takeWhile_takeWhile, both]
  rw [← again]
  exact List.takeWhile_prefix _

theorem reached_last_le (t : LineTable) (offset : Nat) :
    (t.reached offset).getLastD 0 ≤ offset := by
  cases last : (t.reached offset).getLast? with
  | none => simp [List.getLastD_eq_getLast?, last]
  | some n =>
    have member : n ∈ t.starts.takeWhile (· ≤ offset) := List.mem_of_getLast? last
    have bound := List.mem_takeWhile_imp member
    simpa [List.getLastD_eq_getLast?, last] using bound

theorem line_le_line (t : LineTable) {a b : Nat} (le : a ≤ b) : t.line a ≤ t.line b :=
  (t.reached_prefix le).length_le

theorem line_le_lineCount (t : LineTable) (offset : Nat) : t.line offset ≤ t.lineCount :=
  (List.takeWhile_prefix _).length_le

/-- The first line starts at 0, so that no offset is before it. -/
theorem line_pos (bytes : List UInt8) (offset : Nat) : 1 ≤ (ofBytes bytes).line offset := by
  have first : (ofBytes bytes).reached offset = 0 :: (lineStarts 0 bytes).takeWhile (· ≤ offset) := by
    simp [reached, ofBytes]
  show 1 ≤ ((ofBytes bytes).reached offset).length
  rw [first, List.length_cons]
  omega

theorem position_lt (t : LineTable) {a b : Nat} (lt : a < b) : t.position a < t.position b := by
  have initial := t.reached_prefix (Nat.le_of_lt lt)
  rw [Position.lt_def]
  by_cases fewer : (t.reached a).length < (t.reached b).length
  · exact .inl fewer
  · -- no line starts between the two, so the columns count from the same start
    have same : t.reached a = t.reached b :=
      initial.eq_of_length (Nat.le_antisymm initial.length_le (Nat.le_of_not_lt fewer))
    have start := t.reached_last_le a
    refine .inr ⟨congrArg List.length same, ?_⟩
    show a - (t.reached a).getLastD 0 < b - (t.reached b).getLastD 0
    rw [← same]
    omega

/-- The order of offsets is the order of their positions. -/
theorem position_lt_iff (t : LineTable) {a b : Nat} : t.position a < t.position b ↔ a < b := by
  constructor
  · intro before
    rcases Nat.lt_trichotomy a b with lt | rfl | gt
    · exact lt
    · exact absurd before (Position.lt_irrefl _)
    · exact absurd (t.position_lt gt) (Position.lt_asymm before)
  · exact t.position_lt

theorem position_le_iff (t : LineTable) {a b : Nat} : t.position a ≤ t.position b ↔ a ≤ b := by
  rw [Position.le_def, position_lt_iff, Nat.not_lt]

end LineTable

end BranchCount
