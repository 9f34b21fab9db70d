import BranchCount.Proofs.Comparison

/-!
Boolean chains count their operands, however these are grouped. Chains nested in chains make a tree;
a tree with `n` operands at its leaves adds `n - 1`, and whatever the leaves add by themselves. So
putting a tree in place of another with the same leaves changes the score of no function around it.
-/
namespace BranchCount

def Expr.isChain : Expr → Bool
  | .chain .. => true
  | _ => false

/- Trees of chains, each with at least one operand, beside the operands at their leaves. Several
trees are taken at once, from left to right, because the operands of a chain are again trees. -/
inductive Leaves : List Expr → List Expr → Prop
  | nil : Leaves [] []
  | operand {e : Expr} {es leaves : List Expr} (plain : e.isChain = false)
      (rest : Leaves es leaves) : Leaves (e :: es) (e :: leaves)
  | chain {range : Range} {op : Junction} {operands es inner outer : List Expr}
      (nonempty : operands ≠ []) (inside : Leaves operands inner) (rest : Leaves es outer) :
      Leaves (.chain range op operands :: es) (inner ++ outer)

theorem Leaves.length_le {es leaves : List Expr} (trees : Leaves es leaves) :
    es.length ≤ leaves.length := by
  induction trees with
  | nil => exact Nat.le_refl _
  | operand plain rest ih => exact Nat.succ_le_succ ih
  | @chain range op operands es inner outer nonempty inside rest ihInside ihRest =>
    have some : 0 < operands.length := List.length_pos_iff.mpr nonempty
    simp only [List.length_cons, List.length_append]
    omega

/- An outline keeps of a node all but what stands in it. Annotations, type aliases and patterns have
no part in a score, so that nothing is kept of them, except whether a pattern takes everything. -/

def Expr.blank : Expr :=
  .constant ⟨0, 0⟩

def Stmt.blank : Stmt :=
  .inert ⟨0, 0⟩ .pass

def Clause.outline : Clause → Clause
  | .mk isAsync _ _ filters => .mk isAsync .blank .blank (filters.map fun _ => .blank)

def Param.outline : Param → Param
  | .mk role name _ fallback => .mk role name none (fallback.map fun _ => .blank)

def Keyword.outline : Keyword → Keyword
  | .mk name _ => .mk name .blank

def Expr.outline : Expr → Expr
  | .chain range op operands => .chain range op (operands.map fun _ => blank)
  | .named range _ _ => .named range blank blank
  | .binary range _ _ => .binary range blank blank
  | .unary range _ => .unary range blank
  | .lambda range params _ => .lambda range (params.map Param.outline) blank
  | .ternary range _ _ _ => .ternary range blank blank blank
  | .dict range keys values => .dict range (keys.map fun _ => blank) (values.map fun _ => blank)
  | .set range elements => .set range (elements.map fun _ => blank)
  | .comprehension range into _ clauses =>
    .comprehension range into blank (clauses.map Clause.outline)
  | .dictComprehension range _ _ clauses =>
    .dictComprehension range blank blank (clauses.map Clause.outline)
  | .await range _ => .await range blank
  | .yield range value => .yield range (value.map fun _ => blank)
  | .yieldFrom range _ => .yieldFrom range blank
  | .compare range _ others => .compare range blank (others.map fun _ => blank)
  | .call range _ args keywords =>
    .call range blank (args.map fun _ => blank) (keywords.map Keyword.outline)
  | .formatted range _ spec => .formatted range blank (spec.map fun _ => blank)
  | .joined range parts => .joined range (parts.map fun _ => blank)
  | .constant range => .constant range
  | .attribute range _ => .attribute range blank
  | .subscript range _ _ => .subscript range blank blank
  | .starred range _ => .starred range blank
  | .name range => .name range
  | .list range elements => .list range (elements.map fun _ => blank)
  | .tuple range elements => .tuple range (elements.map fun _ => blank)
  | .slice range lower upper step =>
    .slice range (lower.map fun _ => blank) (upper.map fun _ => blank) (step.map fun _ => blank)

def Pattern.outline (p : Pattern) : Pattern :=
  if p.isWildcard then .binding none none else .star none

def MatchCase.outline : MatchCase → MatchCase
  | .mk pattern guard body =>
    .mk pattern.outline (guard.map fun _ => .blank) (body.map fun _ => .blank)

def WithItem.outline (item : WithItem) : WithItem :=
  ⟨.blank, item.target.map fun _ => .blank⟩

def Handler.outline : Handler → Handler
  | .mk range type name body =>
    .mk range (type.map fun _ => .blank) name (body.map fun _ => .blank)

def Stmt.outline : Stmt → Stmt
  | .funcDef range name params body decorators _ =>
    .funcDef range name (params.map Param.outline) (body.map fun _ => blank)
      (decorators.map fun _ => .blank) none
  | .asyncFuncDef range name params body decorators _ =>
    .asyncFuncDef range name (params.map Param.outline) (body.map fun _ => blank)
      (decorators.map fun _ => .blank) none
  | .classDef range name bases keywords body decorators =>
    .classDef range name (bases.map fun _ => .blank) (keywords.map Keyword.outline)
      (body.map fun _ => blank) (decorators.map fun _ => .blank)
  | .ret range value => .ret range (value.map fun _ => .blank)
  | .delete range targets => .delete range (targets.map fun _ => .blank)
  | .assign range targets _ => .assign range (targets.map fun _ => .blank) .blank
  | .typeAlias range _ _ => .typeAlias range .blank .blank
  | .augAssign range _ _ => .augAssign range .blank .blank
  | .annAssign range _ _ value => .annAssign range .blank .blank (value.map fun _ => .blank)
  | .forLoop range _ _ body orelse =>
    .forLoop range .blank .blank (body.map fun _ => blank) (orelse.map fun _ => blank)
  | .asyncForLoop range _ _ body orelse =>
    .asyncForLoop range .blank .blank (body.map fun _ => blank) (orelse.map fun _ => blank)
  | .whileLoop range _ body orelse =>
    .whileLoop range .blank (body.map fun _ => blank) (orelse.map fun _ => blank)
  | .conditional range _ body orelse =>
    .conditional range .blank (body.map fun _ => blank) (orelse.map fun _ => blank)
  | .withBlock range items body =>
    .withBlock range (items.map WithItem.outline) (body.map fun _ => blank)
  | .asyncWithBlock range items body =>
    .asyncWithBlock range (items.map WithItem.outline) (body.map fun _ => blank)
  | .matchOn range _ cases => .matchOn range .blank (cases.map MatchCase.outline)
  | .raise range exception cause =>
    .raise range (exception.map fun _ => .blank) (cause.map fun _ => .blank)
  | .tryBlock range body handlers orelse final =>
    .tryBlock range (body.map fun _ => blank) (handlers.map Handler.outline)
      (orelse.map fun _ => blank) (final.map fun _ => blank)
  | .tryStarBlock range body handlers orelse final =>
    .tryStarBlock range (body.map fun _ => blank) (handlers.map Handler.outline)
      (orelse.map fun _ => blank) (final.map fun _ => blank)
  | .assertion range _ message => .assertion range .blank (message.map fun _ => .blank)
  | .expr range _ => .expr range .blank
  | .inert range form => .inert range form

namespace Node

def outline : Node → Node
  | stmt s => stmt s.outline
  | handler h => handler h.outline
  | expr e => expr e.outline

/-- One tree somewhere in a node is replaced by another with the same leaves. -/
inductive Regrouped : Node → Node → Prop
  | tree {a b : Expr} {leaves : List Expr} (before : Leaves [a] leaves) (after : Leaves [b] leaves) :
      Regrouped (expr a) (expr b)
  | inside {m n x y : Node} {front back : List Node} (around : m.outline = n.outline)
      (before : m.parts = front ++ x :: back) (after : n.parts = front ++ y :: back)
      (regrouped : Regrouped x y) : Regrouped m n
  /-- In an annotation, a type alias or a pattern. -/
  | aside {m n : Node} (around : m.outline = n.outline) (parts : m.parts = n.parts) : Regrouped m n

end Node

theorem Pattern.outline_isWildcard (p : Pattern) : p.outline.isWildcard = p.isWildcard := by
  unfold outline
  split
  · rename_i wild
    exact wild.symm
  · rename_i other
    exact (Bool.eq_false_iff.mpr other).symm

theorem casePoints_outline (offset : Nat) (cases : List MatchCase) :
    casePoints offset (cases.map MatchCase.outline) = casePoints offset cases := by
  induction cases with
  | nil => rfl
  | cons case rest ih =>
    obtain ⟨pattern, guard, body⟩ := case
    rw [List.map_cons, casePoints_cons, casePoints_cons, ih, MatchCase.outline,
      MatchCase.isCatchAll, MatchCase.isCatchAll, Pattern.outline_isWildcard]

theorem clausePoints_outline (kind : Kind) (offset : Nat) (clauses : List Clause) :
    (clauses.map Clause.outline).flatMap (clausePoints kind offset) =
      clauses.flatMap (clausePoints kind offset) := by
  rw [List.flatMap_map]
  apply List.flatMap_congr
  rintro ⟨isAsync, target, source, filters⟩ -
  simp [Clause.outline, clausePoints]

namespace Node

theorem outline_points (n : Node) : n.outline.points = n.points := by
  cases n with
  | stmt s => cases s <;> simp [outline, Stmt.outline, points, casePoints_outline]
  | handler h =>
    obtain ⟨range, type, name, body⟩ := h
    rfl
  | expr e => cases e <;> simp [outline, Expr.outline, points, clausePoints_outline]

theorem outline_definition? (n : Node) :
    n.outline.definition?.isNone = n.definition?.isNone := by
  cases n with
  | stmt s => cases s <;> rfl
  | handler h => rfl
  | expr e => rfl

theorem points_of_outline {m n : Node} (around : m.outline = n.outline) : m.points = n.points := by
  rw [← outline_points m, around, outline_points]

theorem definition_of_outline {m n : Node} (around : m.outline = n.outline) :
    m.definition?.isNone = n.definition?.isNone := by
  rw [← outline_definition? m, around, outline_definition?]

end Node

namespace Counting

/-- What counting a node adds by contributions of the wanted kinds. -/
def weight (c : Counting) (wanted : Kind → Bool) (n : Node) : Nat :=
  total ((((n.walk false).flatMap c.own).filter fun k => wanted k.kind).map (·.amount))

section

variable (c : Counting) (wanted : Kind → Bool)

theorem weight_flatMap (ns : List Node) :
    total (((ns.flatMap fun n => (n.walk false).flatMap c.own).filter fun k => wanted k.kind).map
      (·.amount)) = total (ns.map (c.weight wanted)) := by
  induction ns with
  | nil => rfl
  | cons n rest ih =>
    rw [List.flatMap_cons, List.filter_append, List.map_append, total_append, ih, List.map_cons,
      total, weight]

theorem weight_step (n : Node) :
    c.weight wanted n =
      total (((c.own n).filter fun k => wanted k.kind).map (·.amount)) +
        total ((n.below false).map (c.weight wanted)) := by
  rw [weight, Node.walk_eq, List.flatMap_cons, List.filter_append, List.map_append, total_append,
    List.flatMap_assoc, weight_flatMap]

/-- The weight of a chain, if chains are wanted: one less than it has operands, and the operands. -/
theorem weight_chain (chains : wanted .boolOp = true) (range : Range) (op : Junction)
    (operands : List Expr) :
    c.weight wanted (.expr (.chain range op operands)) =
      (if c.rules.isEnabled .boolOp then operands.length - 1 else 0) +
        total (operands.map fun e => c.weight wanted (.expr e)) := by
  have parts : (Node.expr (.chain range op operands)).below false = operands.map .expr := rfl
  have amount : total (((c.own (.expr (.chain range op operands))).filter
      fun k => wanted k.kind).map (·.amount)) =
        if c.rules.isEnabled .boolOp then operands.length - 1 else 0 := by
    by_cases many : 2 ≤ operands.length
    · by_cases on : c.rules.isEnabled .boolOp = true
      · simp [own, Node.points, chainPoints, kept, contribution, many, on, chains, total]
      · simp [own, Node.points, chainPoints, kept, many, on, total]
    · have none : operands.length - 1 = 0 := by omega
      simp [own, Node.points, chainPoints, many, none, total]
  rw [weight_step, amount, parts, List.map_map]
  rfl

/-- Trees side by side weigh as much as their leaves, and one more for each operator between leaves
of the same tree. -/
theorem weight_leaves (chains : wanted .boolOp = true) {es leaves : List Expr}
    (trees : Leaves es leaves) :
    total (es.map fun e => c.weight wanted (.expr e)) =
      (if c.rules.isEnabled .boolOp then leaves.length - es.length else 0) +
        total (leaves.map fun e => c.weight wanted (.expr e)) := by
  induction trees with
  | nil => simp [total]
  | operand plain rest ih =>
    simp only [List.map_cons, total, List.length_cons, Nat.add_sub_add_right, ih]
    omega
  | @chain range op operands es inner outer nonempty inside rest ihInside ihRest =>
    have some : 0 < operands.length := List.length_pos_iff.mpr nonempty
    have deeper := inside.length_le
    have further := rest.length_le
    simp only [List.map_cons, total, List.map_append, total_append, List.length_cons,
      List.length_append, c.weight_chain wanted chains, ihInside, ihRest]
    -- the operators of the chain join what its operands have left apart
    split
    · omega
    · omega

theorem weight_tree (chains : wanted .boolOp = true) {tree : Expr} {leaves : List Expr}
    (grouped : Leaves [tree] leaves) :
    c.weight wanted (.expr tree) =
      (if c.rules.isEnabled .boolOp then leaves.length - 1 else 0) +
        total (leaves.map fun e => c.weight wanted (.expr e)) := by
  simpa [total] using c.weight_leaves wanted chains grouped

theorem weight_of_outline {m n : Node} (around : m.outline = n.outline)
    (parts : total (m.parts.map (c.weight wanted)) = total (n.parts.map (c.weight wanted))) :
    c.weight wanted m = c.weight wanted n := by
  have own : c.own m = c.own n := congrArg c.kept (Node.points_of_outline around)
  have below : total ((m.below false).map (c.weight wanted)) =
      total ((n.below false).map (c.weight wanted)) := by
    unfold Node.below
    rw [Node.definition_of_outline around]
    split
    · exact parts
    · rfl
  rw [weight_step, own, below, ← weight_step]

theorem weight_regrouped (chains : wanted .boolOp = true) {m n : Node} (regrouped : m.Regrouped n) :
    c.weight wanted m = c.weight wanted n := by
  induction regrouped with
  | tree before after =>
    rw [c.weight_tree wanted chains before, c.weight_tree wanted chains after]
  | @inside m n x y front back around before after regrouped ih =>
    apply c.weight_of_outline wanted around
    rw [before, after]
    simp only [List.map_append, List.map_cons, ih]
  | aside around parts =>
    apply c.weight_of_outline wanted around
    rw [parts]

/-- Regrouping in a statement is regrouping in one of its parts, or does not touch them. -/
theorem weight_parts (chains : wanted .boolOp = true) {s t : Stmt}
    (regrouped : Node.Regrouped (.stmt s) (.stmt t)) :
    total ((Node.stmt s).parts.map (c.weight wanted)) =
      total ((Node.stmt t).parts.map (c.weight wanted)) := by
  cases regrouped with
  | inside around before after regrouped =>
    rw [before, after]
    simp only [List.map_append, List.map_cons, c.weight_regrouped wanted chains regrouped]
  | aside around parts => rw [parts]

end

theorem weight_contributions (c : Counting) (kind : Kind) (e : Expr) (s : Score) :
    amountOf (c.expr e s).contributions kind =
      amountOf s.contributions kind + c.weight (fun k => k = kind) (.expr e) := by
  have run : c.expr e s = s.plus (((Node.expr e).walk false).flatMap c.own) := c.visit_run (.expr e) s
  rw [run, Score.plus, amountOf, List.filter_append, List.map_append, total_append]
  rfl

theorem weight_disabled (c : Counting) {kind : Kind} (off : c.rules.isEnabled kind = false)
    (n : Node) : c.weight (fun k => k = kind) n = 0 := by
  apply amountOf_none
  intro k member same
  obtain ⟨m, -, own⟩ := List.mem_flatMap.mp member
  have on := c.kept_isEnabled own
  rw [same, off] at on
  cases on

theorem toRecord_weight (c : Counting) (d : Definition) :
    (d.toRecord c).complexity = 1 + total (d.parts.map (c.weight fun _ => true)) := by
  have run : c.kept d.points = d.parts.flatMap fun n => (n.walk false).flatMap c.own := by
    rw [Definition.points, kept_flatMap, Definition.scope, List.flatMap_assoc]
    rfl
  rw [toRecord_complexity, run, ← c.weight_flatMap fun _ => true, List.filter_true]

end Counting

/-- A tree of chains adds one less than it has leaves, and what the leaves add by themselves, or
nothing if chains do not count. Replacing a tree anywhere in a function by one with the same leaves
leaves the function's score as it is. -/
theorem chains_count_leaves (c : Counting) :
    (∀ (tree : Expr) (leaves : List Expr) (s : Score), Leaves [tree] leaves →
      0 < leaves.length ∧
      amountOf (c.expr tree s).contributions .boolOp = amountOf s.contributions .boolOp +
        if c.rules.isEnabled .boolOp then
          (leaves.length - 1) + total (leaves.map fun e => amountOf (c.expr e {}).contributions .boolOp)
        else
          0) ∧
    ∀ (s t : Stmt) (d e : Definition), Node.Regrouped (.stmt s) (.stmt t) →
      s.definition? = some d → t.definition? = some e →
      (e.toRecord c).complexity = (d.toRecord c).complexity := by
  constructor
  · intro tree leaves s grouped
    refine ⟨grouped.length_le, ?_⟩
    rw [c.weight_contributions]
    congr 1
    cases on : c.rules.isEnabled .boolOp with
    | false => exact c.weight_disabled on _
    | true =>
      have alone (e : Expr) : amountOf (c.expr e {}).contributions .boolOp =
          c.weight (fun k => k = .boolOp) (.expr e) := by
        rw [c.weight_contributions]
        exact Nat.zero_add _
      have weighed := c.weight_tree (fun k => k = .boolOp) rfl grouped
      simpa only [on, alone, ↓reduceIte] using weighed
  · intro s t d e regrouped before after
    have parts := c.weight_parts (fun _ => true) rfl regrouped
    have first : (Node.stmt s).parts = d.parts := Node.parts_of_definition before
    have second : (Node.stmt t).parts = e.parts := Node.parts_of_definition after
    rw [first, second] at parts
    rw [c.toRecord_weight, c.toRecord_weight, parts]

/-- `(x and y) or z` and `x and (y or z)` as an argument of a call under a loop. -/
theorem chains_count_leaves_regrouped :
    let r : Range := ⟨0, 1⟩
    let c : Counting := ⟨Preset.standardRules, ⟨[0]⟩⟩
    let x : Expr := .name ⟨1, 2⟩
    let y : Expr := .name ⟨2, 3⟩
    let z : Expr := .ternary ⟨3, 4⟩ x y (.chain r .disj [x, y])
    let left : Expr := .chain r .disj [.chain r .conj [x, y], z]
    let right : Expr := .chain r .conj [x, .chain r .disj [y, z]]
    let body (e : Expr) : List Stmt :=
      [.whileLoop r (.call r (.name r) [e] []) [.inert r .pass] []]
    let f (e : Expr) : Stmt := .funcDef r "f" [] (body e) [] none
    let d (e : Expr) : Definition := ⟨"f", r, false, [], body e, []⟩
    Leaves [left] [x, y, z] ∧ Leaves [right] [x, y, z] ∧
    Node.Regrouped (.stmt (f left)) (.stmt (f right)) ∧
    amountOf (c.expr left {}).contributions .boolOp =
      0 + (2 + total ([x, y, z].map fun e => amountOf (c.expr e {}).contributions .boolOp)) ∧
    ((d left).toRecord c).complexity = 6 ∧
    ((d right).toRecord c).complexity = ((d left).toRecord c).complexity := by
  intro r c x y z left right body f d
  have before : Leaves [left] [x, y, z] := by
    have inner : Leaves [x, y] [x, y] := .operand rfl (.operand rfl .nil)
    exact .chain (by simp) (.chain (by simp) inner (.operand rfl .nil)) .nil
  have after : Leaves [right] [x, y, z] := by
    have inner : Leaves [y, z] [y, z] := .operand rfl (.operand rfl .nil)
    exact .chain (by simp) (.operand rfl (.chain (by simp) inner .nil)) .nil
  have call : Node.Regrouped (.expr (.call r (.name r) [left] []))
      (.expr (.call r (.name r) [right] [])) :=
    @Node.Regrouped.inside _ _ _ _ [.expr (.name r)] [] rfl rfl rfl (.tree before after)
  have loop : Node.Regrouped (.stmt (.whileLoop r (.call r (.name r) [left] []) [.inert r .pass] []))
      (.stmt (.whileLoop r (.call r (.name r) [right] []) [.inert r .pass] [])) :=
    @Node.Regrouped.inside _ _ _ _ [] [.stmt (.inert r .pass)] rfl rfl rfl call
  have regrouped : Node.Regrouped (.stmt (f left)) (.stmt (f right)) :=
    @Node.Regrouped.inside _ _ _ _ [] [] rfl rfl rfl loop
  obtain ⟨counts, replaced⟩ := chains_count_leaves c
  refine ⟨before, after, regrouped, (counts left _ {} before).2, by decide +kernel, ?_⟩
  exact replaced (f left) (f right) (d left) (d right) regrouped rfl rfl

end BranchCount
