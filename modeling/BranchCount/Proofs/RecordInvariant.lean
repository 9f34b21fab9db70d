import BranchCount.Proofs.Filtering
import BranchCount.Proofs.Positions
import BranchCount.Rules.Preset

/-!
What holds of every record. A score is one more than its contributions; each of these is of a kind
that counts, lies on a line of the text and weighs 1, or more if it is a boolean chain. The filters
of a comprehension come right behind the clause they belong to.
-/
namespace BranchCount

/- A filter comes behind a clause on the same line, with no more than other filters between them. -/
def FiltersFollow (ks : List Contribution) : Prop :=
  ∀ before k after, ks = before ++ k :: after → k.kind = .filter →
    ∃ front clause between, before = front ++ clause :: between ∧
      clause.kind.isComprehension = true ∧ clause.line = k.line ∧ ∀ x ∈ between, x.kind = .filter

/-- What can be relied on in a record. -/
structure FunctionRecord.Sound (c : Counting) (f : FunctionRecord) : Prop where
  complexity : f.complexity = 1 + total (f.contributions.map (·.amount))
  positive : 1 ≤ f.complexity
  simple : f.complexity = 1 ↔ f.contributions = []
  amount : ∀ k ∈ f.contributions, 1 ≤ k.amount
  single : ∀ k ∈ f.contributions, k.kind ≠ .boolOp → k.amount = 1
  enabled : ∀ k ∈ f.contributions, c.rules.isEnabled k.kind = true
  line : ∀ k ∈ f.contributions, 1 ≤ k.line ∧ k.line ≤ c.lines.lineCount
  filters : FiltersFollow f.contributions

namespace FiltersFollow

theorem of_none {ks : List Contribution} (none : ∀ k ∈ ks, k.kind ≠ .filter) : FiltersFollow ks := by
  rintro before k after rfl filter
  exact absurd filter (none k (by simp))

theorem of_clause {clause : Contribution} {filters : List Contribution}
    (comprehension : clause.kind.isComprehension = true)
    (each : ∀ k ∈ filters, k.kind = .filter ∧ k.line = clause.line) :
    FiltersFollow (clause :: filters) := by
  intro before k after split filter
  cases before with
  | nil =>
    -- the clause itself is no filter
    cases split
    rw [filter] at comprehension
    cases comprehension
  | cons head between =>
    cases split
    refine ⟨[], clause, between, rfl, comprehension, ?_, ?_⟩
    · exact (each k (by simp)).2.symm
    · intro x member
      exact (each x (List.mem_append_left _ member)).1

theorem append {xs ys : List Contribution} (first : FiltersFollow xs) (second : FiltersFollow ys) :
    FiltersFollow (xs ++ ys) := by
  intro before k after split filter
  rcases List.append_eq_append_iff.mp split with ⟨middle, rfl, later⟩ | ⟨middle, earlier, later⟩
  · obtain ⟨front, clause, between, rfl, found⟩ := second middle k after later filter
    exact ⟨xs ++ front, clause, between, by simp, found⟩
  · cases middle with
    | nil =>
      -- the filter would be the first of the second list, where nothing comes before it
      obtain ⟨front, clause, between, none, -⟩ := second [] k after later.symm filter
      simp at none
    | cons x rest =>
      cases later
      exact first before k rest earlier filter

theorem flatMap {α : Type} {xs : List α} {f : α → List Contribution}
    (each : ∀ x ∈ xs, FiltersFollow (f x)) : FiltersFollow (xs.flatMap f) := by
  induction xs with
  | nil => exact of_none (by simp)
  | cons x rest ih =>
    rw [List.flatMap_cons]
    apply append
    · exact each x List.mem_cons_self
    · exact ih fun y member => each y (List.mem_cons_of_mem x member)

end FiltersFollow

theorem mem_chainPoints {op : Junction} {offset operands : Nat} {p : Point}
    (member : p ∈ chainPoints op offset operands) :
    p.kind = .boolOp ∧ p.offset = offset ∧ 1 ≤ p.amount := by
  unfold chainPoints at member
  split at member
  · cases List.mem_singleton.mp member
    refine ⟨rfl, rfl, ?_⟩
    show 1 ≤ operands - 1
    omega
  · cases member

namespace Node

/- All points of a node stand where it starts. Either they are alike, or they are those of a chain
or of the clauses of a comprehension. -/
inductive Shape (n : Node) : Prop
  | plain (kind : Kind) (chain : kind ≠ .boolOp) (filter : kind ≠ .filter)
      (alike : ∀ p ∈ n.points, p = kind.point n.range.start)
  | chain (op : Junction) (operands : Nat) (points : n.points = chainPoints op n.range.start operands)
  | clauses (kind : Kind) (comprehension : kind.isComprehension = true) (clauses : List Clause)
      (points : n.points = clauses.flatMap (clausePoints kind n.range.start))

theorem Shape.of_none {n : Node} (none : n.points = []) : n.Shape :=
  .plain .conditional (by decide) (by decide) (by simp [none])

theorem Shape.of_one {n : Node} {kind : Kind} (chain : kind ≠ .boolOp) (filter : kind ≠ .filter)
    (one : n.points = [kind.point n.range.start]) : n.Shape :=
  .plain kind chain filter (by simp [one])

theorem shape (n : Node) : n.Shape := by
  cases n with
  | handler h =>
    obtain ⟨range, type, name, body⟩ := h
    exact .of_one (by decide) (by decide) rfl
  | stmt s =>
    cases s with
    | forLoop | asyncForLoop | whileLoop | conditional | withBlock | asyncWithBlock | assertion =>
      exact .of_one (by decide) (by decide) rfl
    | matchOn range subject cases =>
      apply Shape.plain .matchCase (by decide) (by decide)
      intro p member
      obtain ⟨case, -, rfl⟩ := List.mem_map.mp member
      rfl
    | _ => exact .of_none rfl
  | expr e =>
    cases e with
    | ternary => exact .of_one (by decide) (by decide) rfl
    | chain range op operands => exact .chain op operands.length rfl
    | comprehension range into element clauses =>
      exact .clauses _ (Counting.comprehensionKind_isComprehension into) clauses rfl
    | dictComprehension range key value clauses => exact .clauses .dictComp rfl clauses rfl
    | _ => exact .of_none rfl

theorem mem_points {n : Node} {p : Point} (member : p ∈ n.points) :
    p.offset = n.range.start ∧ 1 ≤ p.amount ∧ (p.kind ≠ .boolOp → p.amount = 1) := by
  cases n.shape with
  | plain kind chain filter alike =>
    cases alike p member
    simp [Kind.point]
  | chain op operands points =>
    rw [points] at member
    obtain ⟨kind, place, amount⟩ := mem_chainPoints member
    exact ⟨place, amount, fun other => absurd kind other⟩
  | clauses kind comprehension clauses points =>
    rw [points] at member
    obtain ⟨⟨isAsync, target, source, filters⟩, -, inside⟩ := List.mem_flatMap.mp member
    simp only [clausePoints, List.mem_cons, List.mem_map] at inside
    rcases inside with rfl | ⟨filter, -, rfl⟩
    · simp [Kind.point]
    · simp [Kind.point]

end Node

namespace Counting

theorem clause_filtersFollow (c : Counting) (kind : Kind)
    (comprehension : kind.isComprehension = true) (offset : Nat) (clause : Clause) :
    FiltersFollow (c.kept (clausePoints kind offset clause)) := by
  obtain ⟨isAsync, target, source, filters⟩ := clause
  by_cases on : c.rules.isEnabled .filter = true
  · -- filters count, hence the clause does, and all of it is kept
    have clause := filter_needs_comprehension c.rules kind comprehension on
    rw [kept_enabled]
    · apply FiltersFollow.of_clause comprehension
      simp [Kind.point, contribution]
    · simp [clausePoints, Kind.point, clause, on]
  · apply FiltersFollow.of_none
    intro k member filter
    have enabled := c.kept_isEnabled member
    rw [filter] at enabled
    exact on enabled

theorem own_filtersFollow (c : Counting) (n : Node) : FiltersFollow (c.own n) := by
  cases n.shape with
  | plain kind chain filter alike =>
    apply FiltersFollow.of_none
    intro k member
    obtain ⟨p, there, -, rfl⟩ := c.mem_kept member
    cases alike p there
    exact filter
  | chain op operands points =>
    apply FiltersFollow.of_none
    intro k member filter
    obtain ⟨p, there, -, rfl⟩ := c.mem_kept member
    rw [points] at there
    cases filter.symm.trans (mem_chainPoints there).1
  | clauses kind comprehension clauses points =>
    rw [own, points, kept_flatMap]
    apply FiltersFollow.flatMap
    intro clause _
    exact c.clause_filtersFollow kind comprehension _ clause

/- A whole run has the contributions of the nodes in scope, so that what holds node by node holds of
all. -/

theorem contribution_origin (c : Counting) (d : Definition) {k : Contribution}
    (member : k ∈ c.kept d.points) :
    ∃ p, c.rules.isEnabled p.kind = true ∧ k = c.contribution p ∧
      1 ≤ p.amount ∧ (p.kind ≠ .boolOp → p.amount = 1) := by
  obtain ⟨p, there, on, same⟩ := c.mem_kept member
  obtain ⟨n, -, inside⟩ := List.mem_flatMap.mp there
  exact ⟨p, on, same, (Node.mem_points inside).2⟩

theorem definition_filtersFollow (c : Counting) (d : Definition) :
    FiltersFollow (c.kept d.points) := by
  rw [Definition.points, kept_flatMap]
  apply FiltersFollow.flatMap
  intro n _
  exact c.own_filtersFollow n

end Counting

theorem toRecord_sound (d : Definition) (c : Counting) (first : ∀ offset, 1 ≤ c.lines.line offset) :
    (d.toRecord c).Sound c := by
  have score := toRecord_complexity d c
  have origin := fun k => @c.contribution_origin d k
  rw [← toRecord_contributions] at score origin
  refine ⟨score, ?positive, ?simple, ?amount, ?single, ?enabled, ?line, ?filters⟩
  case positive =>
    rw [score]
    omega
  case simple =>
    constructor
    · intro one
      cases none : (d.toRecord c).contributions with
      | nil => rfl
      | cons k rest =>
        obtain ⟨p, -, rfl, amount, -⟩ := origin k (by simp [none])
        simp only [none, List.map_cons, total, Counting.contribution] at score
        omega
    · intro none
      rw [score, none]
      rfl
  case amount =>
    intro k member
    obtain ⟨p, -, rfl, amount, -⟩ := origin k member
    exact amount
  case single =>
    intro k member other
    obtain ⟨p, -, rfl, -, single⟩ := origin k member
    exact single other
  case enabled =>
    intro k member
    obtain ⟨p, on, rfl, -⟩ := origin k member
    exact on
  case line =>
    intro k member
    obtain ⟨p, -, rfl, -⟩ := origin k member
    exact ⟨first p.offset, c.lines.line_le_lineCount p.offset⟩
  case filters =>
    rw [toRecord_contributions]
    exact c.definition_filtersFollow d

/-- The invariant of records, for every function of a module. -/
theorem discoverFunctions_sound (rules : RuleSet) (text : String) (module : List Stmt) :
    ∀ f ∈ discoverFunctions ⟨rules, .ofText text⟩ module, f.Sound ⟨rules, .ofText text⟩ := by
  intro f member
  rw [discover_records] at member
  obtain ⟨d, -, rfl⟩ := List.mem_map.mp member
  exact toRecord_sound d _ (LineTable.line_pos text.toUTF8.toList)

/-- A comprehension of two clauses with filters, the second line of a function. -/
theorem discoverFunctions_sound_comprehension :
    let text := "def f(a, b):\r\n  return [x or y or 0 for x in a if x if b for y in x if y]"
    let c : Counting := ⟨Preset.standardRules, .ofText text⟩
    let x (start : Nat) : Expr := .name ⟨start, start + 1⟩
    let element : Expr := .chain ⟨24, 35⟩ .disj [x 24, x 29, .constant ⟨34, 35⟩]
    let f : Definition := ⟨"f", ⟨0, 73⟩, false,
      [.mk .positional "a" none none, .mk .positional "b" none none],
      [.ret ⟨16, 73⟩ (some (.comprehension ⟨23, 73⟩ .list element
        [.mk false (x 40) (x 45) [x 50, x 55], .mk false (x 61) (x 66) [x 71]]))], []⟩
    let module : List Stmt := [.funcDef f.range "f" f.params f.body [] none]
    f.toRecord c ∈ discoverFunctions c module ∧
    (f.toRecord c).contributions.map (fun k => (k.kind, k.line, k.amount)) =
      [(.listComp, 2, 1), (.filter, 2, 1), (.filter, 2, 1), (.listComp, 2, 1), (.filter, 2, 1),
        (.boolOp, 2, 2)] ∧
    (f.toRecord c).Sound c := by
  intro text c x element f module
  have found : discoverFunctions c module = [f.toRecord c] := rfl
  have member : f.toRecord c ∈ discoverFunctions c module := by
    rw [found]
    exact List.mem_singleton_self _
  refine ⟨member, by decide +kernel, ?_⟩
  exact discoverFunctions_sound Preset.standardRules text module _ member

end BranchCount
