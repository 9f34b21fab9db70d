import BranchCount.Proofs.RecordInvariant

/-!
Where the contributions of a function lie. If every node spans what stands in it, then what the default
values and the body contribute lies on the lines of the function, and what a decorator contributes on the
lines of that decorator.
-/
namespace BranchCount

/-- A range, not turned round, lies in another. -/
def Range.Holds (outer inner : Range) : Prop :=
  outer.start ≤ inner.start ∧ inner.start ≤ inner.stop ∧ inner.stop ≤ outer.stop

theorem Range.Holds.trans {outer middle inner : Range} (first : outer.Holds middle)
    (second : middle.Holds inner) : outer.Holds inner := by
  unfold Range.Holds at *
  omega

namespace Node

/-- The decorators of a class, which stand before it. -/
def decorators : Node → List Node
  | stmt (.classDef _ _ _ _ _ decorators) => decorators.map expr
  | _ => []

/- A node lies in a range, and what counting meets below it lies in the node's own range. Only decorators
may stand before their class, though not before what is around it. -/
inductive LiesIn : Node → Range → Prop
  | mk {n : Node} {outer : Range} (here : outer.Holds n.range)
      (parts : ∀ p ∈ n.below false, p ∉ n.decorators → LiesIn p n.range)
      (decorators : ∀ p ∈ n.decorators, LiesIn p outer) : LiesIn n outer

theorem LiesIn.of_expr {e : Expr} {outer : Range} (here : outer.Holds e.range)
    (parts : ∀ p ∈ e.parts, (expr p).LiesIn e.range) : (expr e).LiesIn outer := by
  apply LiesIn.mk here
  · intro n below _
    obtain ⟨p, member, rfl⟩ := List.mem_map.mp below
    exact parts p member
  · simp [decorators]

theorem LiesIn.walk {n : Node} {outer : Range} (lies : n.LiesIn outer) :
    ∀ m ∈ n.walk false, outer.Holds m.range := by
  induction lies with
  | @mk n outer here parts decorators ihParts ihDecorators =>
    intro m member
    rw [walk_eq] at member
    rcases List.mem_cons.mp member with rfl | below
    · exact here
    · obtain ⟨p, inside, deeper⟩ := List.mem_flatMap.mp below
      by_cases decorator : p ∈ n.decorators
      · exact ihDecorators p decorator m deeper
      · exact here.trans (ihParts p inside decorator m deeper)

end Node

/-- The ranges of a function are well formed: its default values and its body lie in it. Its decorators
stand before it, so that they are held to their own ranges only. -/
structure Definition.Contained (d : Definition) : Prop where
  defaults : ∀ e ∈ defaults d.params, (Node.expr e).LiesIn d.range
  body : ∀ s ∈ d.body, (Node.stmt s).LiesIn d.range
  decorators : ∀ e ∈ d.decorators, (Node.expr e).LiesIn e.range

/-- The line is the first or the last of a span, or one between. -/
def Span.HasLine (s : Span) (line : Nat) : Prop :=
  s.line ≤ line ∧ line ≤ s.endLine

namespace Counting

theorem node_lines (c : Counting) {n : Node} {outer : Range} (lies : n.LiesIn outer) :
    ∀ k ∈ (n.walk false).flatMap c.own, (c.lines.span outer.start outer.stop).HasLine k.line := by
  intro k member
  obtain ⟨m, there, own⟩ := List.mem_flatMap.mp member
  obtain ⟨p, point, -, rfl⟩ := c.mem_kept own
  obtain ⟨start, order, stop⟩ := lies.walk m there
  have place := (Node.mem_points point).1
  constructor
  · apply c.lines.line_le_line
    omega
  · apply c.lines.line_le_line
    omega

theorem nodes_lines (c : Counting) {ns : List Node} {outer : Range}
    (lie : ∀ n ∈ ns, n.LiesIn outer) :
    ∀ k ∈ ns.flatMap fun n => (n.walk false).flatMap c.own,
      (c.lines.span outer.start outer.stop).HasLine k.line := by
  intro k member
  obtain ⟨n, there, inside⟩ := List.mem_flatMap.mp member
  exact c.node_lines (lie n there) k inside

theorem expr_contributions (c : Counting) (e : Expr) :
    (c.expr e {}).contributions = ((Node.expr e).walk false).flatMap c.own :=
  congrArg Score.contributions (c.visit_run (.expr e) {})

theorem inside_contributions (c : Counting) (d : Definition) :
    (c.body d.body (c.defaults d.params {})).contributions =
      ((BranchCount.defaults d.params).map Node.expr ++ d.body.map Node.stmt).flatMap
        fun n => (n.walk false).flatMap c.own := by
  rw [body_each, defaults_each, ← each_append, each_plus c.visit _ _ fun n _ => c.visit_run n]
  rfl

theorem decorator_contributions (c : Counting) (d : Definition) :
    (d.toRecord c).contributions = (c.body d.body (c.defaults d.params {})).contributions ++
      d.decorators.flatMap fun e => (c.expr e {}).contributions := by
  simp only [expr_contributions]
  rw [inside_contributions, Definition.toRecord, definition_contributions, Definition.scope,
    List.flatMap_assoc, Definition.parts, List.flatMap_append, List.flatMap_map]

end Counting

/-- The contributions of a function are those of its default values and its body, all on lines of the
function, and behind them those of its decorators, each on lines of its decorator. -/
theorem toRecord_lines (c : Counting) (d : Definition) (contained : d.Contained) :
    let f := d.toRecord c
    let inside := (c.body d.body (c.defaults d.params {})).contributions
    f.contributions = inside ++ d.decorators.flatMap (fun e => (c.expr e {}).contributions) ∧
    (∀ k ∈ inside, f.span.HasLine k.line) ∧
    ∀ e ∈ d.decorators, ∀ k ∈ (c.expr e {}).contributions,
      (c.lines.span e.range.start e.range.stop).HasLine k.line := by
  intro f inside
  refine ⟨c.decorator_contributions d, ?_, ?_⟩
  · have lie : ∀ n ∈ (defaults d.params).map Node.expr ++ d.body.map Node.stmt,
        n.LiesIn d.range := by
      intro n member
      rcases List.mem_append.mp member with default | statement
      · obtain ⟨e, there, rfl⟩ := List.mem_map.mp default
        exact contained.defaults e there
      · obtain ⟨s, there, rfl⟩ := List.mem_map.mp statement
        exact contained.body s there
    have nodes : inside = _ := c.inside_contributions d
    rw [nodes]
    exact c.nodes_lines lie
  · intro e decorates k member
    rw [c.expr_contributions] at member
    exact c.node_lines (contained.decorators e decorates) k member

/-- A function with a default value and a decorator, and in it a class with a decorator. -/
def decorated : Definition :=
  let name (start : Nat) : Expr := .name ⟨start, start + 1⟩
  { name := "f"
    range := ⟨15, 58⟩
    isAsync := false
    params := [.mk .positional "x" none (some (.chain ⟨23, 29⟩ .disj [name 23, name 28]))]
    body := [.classDef ⟨45, 58⟩ "K" [] [] [.inert ⟨54, 58⟩ .pass]
      [.chain ⟨35, 42⟩ .conj [name 35, name 41]]]
    decorators := [.ternary ⟨1, 14⟩ (name 6) (name 1) (name 13)] }

theorem decorated_contained : decorated.Contained := by
  have joined {e : Expr} {outer : Range} (here : outer.Holds e.range)
      (names : ∀ p ∈ e.parts, e.range.Holds p.range ∧ p.parts = []) : (Node.expr e).LiesIn outer := by
    apply Node.LiesIn.of_expr here
    intro p member
    obtain ⟨holds, none⟩ := names p member
    exact .of_expr holds (by simp [none])
  constructor
  · intro e member
    cases List.mem_singleton.mp member
    apply joined
    · simp [Range.Holds, Expr.range, decorated]
    · simp [Range.Holds, Expr.range, Expr.parts]
  · intro s member
    cases List.mem_singleton.mp member
    apply Node.LiesIn.mk
    · simp [Range.Holds, Node.range, Stmt.range, decorated]
    · intro p below other
      rcases List.mem_cons.mp below with rfl | decorator
      · apply Node.LiesIn.mk
        · simp [Range.Holds, Node.range, Stmt.range]
        · simp [Node.below, Node.parts]
        · simp [Node.decorators]
      · exact absurd decorator other
    · intro p decorator
      cases List.mem_singleton.mp decorator
      apply joined
      · simp [Range.Holds, Expr.range, decorated]
      · simp [Range.Holds, Expr.range, Expr.parts]
  · intro e member
    cases List.mem_singleton.mp member
    apply joined
    · simp [Range.Holds, Expr.range]
    · simp [Range.Holds, Expr.range, Expr.parts]

theorem toRecord_lines_decorated :
    let text := "@d if p else q\ndef f(x=a or b):\r  @e and g\r  class K: pass\n"
    let c : Counting := ⟨Preset.standardRules, .ofText text⟩
    let f := decorated.toRecord c
    decorated.Contained ∧ (f.span.line, f.span.endLine) = (2, 4) ∧
    f.contributions.map (fun k => (k.kind, k.line)) =
      [(.boolOp, 2), (.boolOp, 3), (.ternary, 1)] ∧
    ∀ k ∈ (c.body decorated.body (c.defaults decorated.params {})).contributions,
      f.span.HasLine k.line := by
  intro text c f
  refine ⟨decorated_contained, by decide +kernel, by decide +kernel, ?_⟩
  exact (toRecord_lines c decorated decorated_contained).2.1

end BranchCount
