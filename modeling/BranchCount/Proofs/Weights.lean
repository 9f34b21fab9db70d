import BranchCount.Counting
import BranchCount.Proofs.Nodes

/-!
What counting adds up. Each kind of node has a weight of its own, written down as a table that knows
nothing of rules or lines. Counting a function gives the weights of the nodes in its scope, those
that the rules enable, in the order of the walk.
-/
namespace BranchCount

/-- A decision point before rules and lines are looked at. -/
structure Point where
  kind : Kind
  offset : Nat
  amount : Nat
  description : String

/-- A decision point of weight 1. -/
def Kind.point (kind : Kind) (offset : Nat) : Point :=
  ⟨kind, offset, 1, kind.description⟩

/-- A chain of operands weighs one less than it has operands. -/
def chainPoints (op : Junction) (offset operands : Nat) : List Point :=
  if 2 ≤ operands then
    [⟨.boolOp, offset, operands - 1,
      toString (operands - 1) ++ " " ++ Counting.operatorWord op ++ " operator(s)"⟩]
  else
    []

/-- A `for` clause of a comprehension, then each of its filters. -/
def clausePoints (kind : Kind) (offset : Nat) : Clause → List Point
  | .mk _ _ _ filters => kind.point offset :: filters.map fun _ => Kind.filter.point offset

/-- The cases of a `match` that are not catch-alls. -/
def casePoints (offset : Nat) (cases : List MatchCase) : List Point :=
  (cases.filter fun case => !case.isCatchAll).map fun _ => Kind.matchCase.point offset

theorem casePoints_cons (offset : Nat) (case : MatchCase) (rest : List MatchCase) :
    casePoints offset (case :: rest) =
      (if case.isCatchAll then [] else [Kind.matchCase.point offset]) ++ casePoints offset rest := by
  cases wild : case.isCatchAll <;> simp [casePoints, wild]

/-- The table of weights: what a node adds by itself, whatever stands in it. -/
def Node.points : Node → List Point
  | .stmt (.forLoop range ..) => [Kind.forLoop.point range.start]
  | .stmt (.asyncForLoop range ..) => [Kind.forLoop.point range.start]
  | .stmt (.whileLoop range ..) => [Kind.whileLoop.point range.start]
  | .stmt (.conditional range ..) => [Kind.conditional.point range.start]
  | .stmt (.withBlock range ..) => [Kind.withBlock.point range.start]
  | .stmt (.asyncWithBlock range ..) => [Kind.withBlock.point range.start]
  | .stmt (.assertion range ..) => [Kind.assertion.point range.start]
  | .stmt (.matchOn range _ cases) => casePoints range.start cases
  | .handler (.mk range ..) => [Kind.handler.point range.start]
  | .expr (.ternary range ..) => [Kind.ternary.point range.start]
  | .expr (.chain range op operands) => chainPoints op range.start operands.length
  | .expr (.comprehension range into _ clauses) =>
    clauses.flatMap (clausePoints (Counting.comprehensionKind into) range.start)
  | .expr (.dictComprehension range _ _ clauses) =>
    clauses.flatMap (clausePoints .dictComp range.start)
  | _ => []

theorem total_append (xs ys : List Nat) : total (xs ++ ys) = total xs + total ys := by
  induction xs with
  | nil => simp [total]
  | cons x xs ih => simp only [List.cons_append, total, ih, Nat.add_assoc]

namespace Score

/-- The score with contributions added at its end. -/
def plus (s : Score) (more : List Contribution) : Score :=
  ⟨s.complexity + total (more.map (·.amount)), s.contributions ++ more⟩

@[simp] theorem plus_nil (s : Score) : s.plus [] = s := by
  simp [plus, total]

@[simp] theorem plus_plus (s : Score) (xs ys : List Contribution) :
    (s.plus xs).plus ys = s.plus (xs ++ ys) := by
  simp [plus, total_append, Nat.add_assoc]

end Score

namespace Counting

def contribution (c : Counting) (p : Point) : Contribution :=
  ⟨p.kind, c.lines.line p.offset, p.amount, p.description⟩

/-- The contributions of the points that the rules enable. -/
def kept (c : Counting) (points : List Point) : List Contribution :=
  (points.filter fun p => c.rules.isEnabled p.kind).map c.contribution

/-- What a node contributes by itself. -/
def own (c : Counting) (n : Node) : List Contribution :=
  c.kept n.points

@[simp] theorem kept_nil (c : Counting) : c.kept [] = [] := rfl

theorem kept_append (c : Counting) (xs ys : List Point) :
    c.kept (xs ++ ys) = c.kept xs ++ c.kept ys := by
  simp [kept]

theorem kept_enabled (c : Counting) (points : List Point)
    (on : ∀ p ∈ points, c.rules.isEnabled p.kind = true) :
    c.kept points = points.map c.contribution := by
  rw [kept, List.filter_eq_self.mpr on]

theorem kept_disabled (c : Counting) (points : List Point)
    (off : ∀ p ∈ points, ¬ c.rules.isEnabled p.kind = true) : c.kept points = [] := by
  rw [kept, List.filter_eq_nil_iff.mpr off]
  rfl

/- Each way of recording adds the kept part of a list of points. -/

theorem add_point (c : Counting) (p : Point) (s : Score) :
    c.add p.kind p.offset p.amount p.description s = s.plus [c.contribution p] := by
  simp [add, Score.plus, total, contribution]

theorem add_kind (c : Counting) (kind : Kind) (offset : Nat) (s : Score) :
    c.add kind offset 1 kind.description s = s.plus [c.contribution (kind.point offset)] :=
  c.add_point (kind.point offset) s

theorem record_kept (c : Counting) (kind : Kind) (offset : Nat) (s : Score) :
    c.record kind offset s = s.plus (c.kept [kind.point offset]) := by
  by_cases on : c.rules.isEnabled kind = true
  · rw [record, if_pos on, add_kind, kept_enabled]
    · rfl
    · simpa [Kind.point] using on
  · rw [record, if_neg on, kept_disabled, Score.plus_nil]
    simpa [Kind.point] using on

theorem addMany_plus {α : Type} (c : Counting) (kind : Kind) (offset : Nat) (xs : List α)
    (s : Score) : c.addMany kind offset xs.length s =
      s.plus (xs.map fun _ => c.contribution (kind.point offset)) := by
  induction xs generalizing s with
  | nil => simp [addMany]
  | cons x xs ih =>
    rw [List.length_cons, addMany, ih, add_kind]
    simp

theorem addMany_kept {α : Type} (c : Counting) (kind : Kind) (offset : Nat) (xs : List α)
    (s : Score) : (if c.rules.isEnabled kind then c.addMany kind offset xs.length s else s) =
      s.plus (c.kept (xs.map fun _ => kind.point offset)) := by
  by_cases on : c.rules.isEnabled kind = true
  · rw [if_pos on, addMany_plus, kept_enabled, List.map_map]
    · rfl
    · simp [Kind.point, on]
  · rw [if_neg on, kept_disabled, Score.plus_nil]
    simp [Kind.point, on]

theorem recordCases_kept (c : Counting) (offset : Nat) (cases : List MatchCase) (s : Score) :
    c.recordCases offset cases s = s.plus (c.kept (casePoints offset cases)) := by
  rw [recordCases, List.countP_eq_length_filter, addMany_kept]
  rfl

theorem recordChain_kept (c : Counting) (op : Junction) (offset operands : Nat) (s : Score) :
    c.recordChain op offset operands s = s.plus (c.kept (chainPoints op offset operands)) := by
  by_cases many : 2 ≤ operands
  · have some : operands - 1 ≠ 0 := by omega
    by_cases on : c.rules.isEnabled .boolOp = true
    · simp [recordChain, chainPoints, kept, many, some, on, add, Score.plus, total, contribution]
    · simp [recordChain, chainPoints, kept, many, on]
  · have none : operands - 1 = 0 := by omega
    simp [recordChain, chainPoints, many, none]

theorem comprehensionKind_isComprehension (into : Collection) :
    (comprehensionKind into).isComprehension = true := by
  cases into <;> rfl

theorem filter_needs_comprehension (rules : RuleSet) (kind : Kind)
    (comprehension : kind.isComprehension = true) (on : rules.isEnabled .filter = true) :
    rules.isEnabled kind = true := by
  simp only [RuleSet.isEnabled, Bool.and_eq_true] at on
  cases kind <;> first | exact on.1 | cases comprehension

/-- Filters are never enabled without comprehensions, so that a disabled kind leaves out the whole
list although its filters are of another kind. -/
theorem recordClauses_kept (c : Counting) (kind : Kind) (comprehension : kind.isComprehension = true)
    (offset : Nat) (clauses : List Clause) (s : Score) :
    c.recordClauses kind offset clauses s =
      s.plus (c.kept (clauses.flatMap (clausePoints kind offset))) := by
  induction clauses generalizing s with
  | nil => simp [recordClauses]
  | cons clause rest ih =>
    obtain ⟨isAsync, target, source, filters⟩ := clause
    rw [List.flatMap_cons, kept_append, ← Score.plus_plus]
    by_cases on : c.rules.isEnabled kind = true
    · rw [recordClauses, if_pos on, ih, add_kind, addMany_kept]
      simp [clausePoints, kept, Kind.point, on]
    · have off : ¬ c.rules.isEnabled .filter = true :=
        fun filter => on (filter_needs_comprehension c.rules kind comprehension filter)
      have nothing : c.kept (clausePoints kind offset (.mk isAsync target source filters)) = [] := by
        apply kept_disabled
        simp [clausePoints, Kind.point, on, off]
      rw [recordClauses, if_neg on, nothing, Score.plus_nil, ← ih]
      cases rest with
      | nil => rfl
      | cons next rest =>
        obtain ⟨isAsync, target, source, filters⟩ := next
        rw [recordClauses, if_neg on]

/-- Visits nodes one after another. -/
def each (visit : Node → Score → Score) : List Node → Score → Score
  | [], s => s
  | n :: rest, s => each visit rest (visit n s)

theorem each_append (visit : Node → Score → Score) (ms ns : List Node) (s : Score) :
    each visit (ms ++ ns) s = each visit ns (each visit ms s) := by
  induction ms generalizing s with
  | nil => rfl
  | cons m ms ih => simp only [List.cons_append, each, ih]

/-- The counter at one node. -/
def visit (c : Counting) : Node → Score → Score
  | .stmt s => c.stmt s
  | .handler h => c.handlers [h]
  | .expr e => c.expr e

/-- A loop over a list that visits the nodes of one element after those of another visits the nodes
of all elements. -/
theorem each_of_loop {α : Type} {visit : Node → Score → Score} {loop : List α → Score → Score}
    {nodes : α → List Node} (stop : ∀ s, loop [] s = s)
    (go : ∀ x rest s, loop (x :: rest) s = loop rest (each visit (nodes x) s)) (xs : List α)
    (s : Score) : loop xs s = each visit (xs.flatMap nodes) s := by
  induction xs generalizing s with
  | nil => exact stop s
  | cons x rest ih => rw [go, ih, List.flatMap_cons, each_append]

/- Each list that the counter goes through is visited node by node. -/

theorem exprs_each (c : Counting) (es : List Expr) (s : Score) :
    c.exprs es s = each c.visit (es.map .expr) s := by
  rw [List.map_eq_flatMap]
  apply each_of_loop
  · simp [exprs]
  · simp [exprs, each, visit]

theorem optional_each (c : Counting) (o : Option Expr) (s : Score) :
    c.optional o s = each c.visit (o.toList.map .expr) s := by
  cases o with
  | none => simp [optional, each]
  | some e => simp [optional, each, visit]

theorem clauses_each (c : Counting) (clauses : List Clause) (s : Score) :
    c.clauses clauses s = each c.visit ((clauses.flatMap Clause.parts).map .expr) s := by
  rw [List.map_flatMap]
  apply each_of_loop
  · simp [Counting.clauses]
  · intro clause rest s
    obtain ⟨isAsync, target, source, filters⟩ := clause
    simp [Counting.clauses, Clause.parts, exprs_each, each, visit]

theorem keywords_each (c : Counting) (keywords : List Keyword) (s : Score) :
    c.keywords keywords s = each c.visit ((keywords.map Keyword.value).map .expr) s := by
  rw [List.map_map, List.map_eq_flatMap]
  apply each_of_loop
  · simp [Counting.keywords]
  · intro keyword rest s
    obtain ⟨name, value⟩ := keyword
    simp [Counting.keywords, Keyword.value, each, visit]

theorem params_each (c : Counting) (role : ParamRole) (params : List Param) (s : Score) :
    c.params role params s = each c.visit ((defaultsOf role params).map .expr) s := by
  induction params generalizing s with
  | nil => simp [Counting.params, defaultsOf, each]
  | cons param rest ih =>
    obtain ⟨r, name, hint, fallback⟩ := param
    rw [Counting.params, ih, defaultsOf_cons, List.map_append, each_append]
    by_cases same : r = role
    · rw [if_pos same, if_pos same, optional_each]
    · rw [if_neg same, if_neg same]
      rfl

theorem defaults_each (c : Counting) (params : List Param) (s : Score) :
    c.defaults params s = each c.visit ((BranchCount.defaults params).map .expr) s := by
  simp [defaults, BranchCount.defaults, params_each, each_append]

theorem withItems_each (c : Counting) (items : List WithItem) (s : Score) :
    c.withItems items s = each c.visit ((items.flatMap WithItem.parts).map .expr) s := by
  rw [List.map_flatMap]
  apply each_of_loop
  · simp [withItems]
  · simp [withItems, WithItem.parts, optional_each, each, visit]

theorem body_each (c : Counting) (body : List Stmt) (s : Score) :
    c.body body s = each c.visit (body.map .stmt) s := by
  rw [List.map_eq_flatMap]
  apply each_of_loop
  · simp [Counting.body]
  · simp [Counting.body, each, visit]

theorem handlers_each (c : Counting) (handlers : List Handler) (s : Score) :
    c.handlers handlers s = each c.visit (handlers.map .handler) s := by
  rw [List.map_eq_flatMap]
  apply each_of_loop
  · simp [Counting.handlers]
  · intro handler rest s
    obtain ⟨range, type, name, body⟩ := handler
    simp [Counting.handlers, each, visit]

theorem cases_each (c : Counting) (cases : List MatchCase) (s : Score) :
    c.cases cases s = each c.visit (cases.flatMap Node.ofCase) s := by
  apply each_of_loop
  · simp [Counting.cases]
  · intro case rest s
    obtain ⟨pattern, guard, body⟩ := case
    simp [Counting.cases, Node.ofCase, body_each, optional_each, each_append]

theorem expr_step (c : Counting) (e : Expr) (s : Score) :
    c.expr e s = each c.visit (e.parts.map .expr) (s.plus (c.own (.expr e))) := by
  have elements := fun into =>
    c.recordClauses_kept (comprehensionKind into) (comprehensionKind_isComprehension into)
  have entries := c.recordClauses_kept .dictComp rfl
  cases e <;>
    simp [expr, Expr.parts, own, Node.points, each, each_append, visit, exprs_each, optional_each,
      keywords_each, clauses_each, params_each, BranchCount.defaults, record_kept,
      recordChain_kept, elements, entries]

theorem visit_step (c : Counting) (n : Node) (s : Score) :
    c.visit n s = each c.visit (n.below false) (s.plus (c.own n)) := by
  cases n with
  | expr e => exact c.expr_step e s
  | handler h =>
    obtain ⟨range, type, name, body⟩ := h
    simp [visit, Counting.handlers, Node.below, Node.definition?, Node.parts, own, Node.points,
      each_append, record_kept, optional_each, body_each]
  | stmt t =>
    cases t <;>
      simp [visit, stmt, Node.below, Node.definition?, Stmt.definition?, Node.parts, own,
        Node.points, each, each_append, exprs_each, optional_each, keywords_each, withItems_each,
        body_each, handlers_each, cases_each, record_kept, recordCases_kept]

theorem each_plus (visit : Node → Score → Score) (adds : Node → List Contribution)
    (ns : List Node) (known : ∀ n ∈ ns, ∀ s, visit n s = s.plus (adds n)) (s : Score) :
    each visit ns s = s.plus (ns.flatMap adds) := by
  induction ns generalizing s with
  | nil => simp [each]
  | cons n rest ih =>
    have head := known n List.mem_cons_self s
    have tail := ih fun m hm => known m (List.mem_cons_of_mem n hm)
    rw [each, head, tail, Score.plus_plus, List.flatMap_cons]

/-- A visit that counts a node by itself and then goes on below it counts the whole walk. -/
theorem run_of_step (c : Counting) (enter : Bool) (visit : Node → Score → Score)
    (step : ∀ n s, visit n s = each visit (n.below enter) (s.plus (c.own n))) (n : Node)
    (s : Score) : visit n s = s.plus ((n.walk enter).flatMap c.own) := by
  induction n using Node.induction generalizing s with
  | step n ih =>
    have parts : ∀ m ∈ n.below enter, ∀ s, visit m s = s.plus ((m.walk enter).flatMap c.own) :=
      fun m hm => ih m (Node.mem_parts_of_below hm)
    rw [step, each_plus visit _ _ parts, Score.plus_plus, Node.walk_eq, List.flatMap_cons,
      List.flatMap_assoc]

theorem visit_run (c : Counting) (n : Node) (s : Score) :
    c.visit n s = s.plus ((n.walk false).flatMap c.own) :=
  c.run_of_step false c.visit c.visit_step n s

theorem body_run (c : Counting) (body : List Stmt) (s : Score) :
    c.body body s = s.plus (((body.map .stmt).flatMap (Node.walk false)).flatMap c.own) := by
  rw [body_each, each_plus c.visit _ _ fun n _ => c.visit_run n, List.flatMap_assoc]

theorem definition_run (c : Counting) (d : Definition) :
    c.definition d = ({} : Score).plus (d.scope.flatMap c.own) := by
  have visited : c.definition d = each c.visit d.parts {} := by
    simp [definition, Definition.parts, defaults_each, body_each, exprs_each, each_append]
  rw [visited, each_plus c.visit _ _ fun n _ => c.visit_run n, Definition.scope, List.flatMap_assoc]

/-- The contributions of a function are those of the nodes in its scope, one node after another. The
scope depends on the function alone; rules and lines enter node by node. -/
theorem definition_contributions (c : Counting) (d : Definition) :
    (c.definition d).contributions = d.scope.flatMap c.own := by
  simp [definition_run, Score.plus]

end Counting
end BranchCount
