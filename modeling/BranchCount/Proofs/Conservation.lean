import Mathlib.Data.List.Perm.Basic
import BranchCount.Proofs.Definitions
import BranchCount.Proofs.Weights

/-!
Counting skips the definitions inside a function and discovery scores them apart. Together they lose
nothing and count nothing twice: a counter that goes into definitions finds what the skipping
counter finds in the module itself and what stands in the records, taken together.
-/
namespace BranchCount

namespace Counting

/- The counter with one change: at a definition it goes on into default values, body and decorators.
Statements that hold no statements are left to the counter itself. -/
mutual

def deepStmt (c : Counting) : Stmt → Score → Score
  | .funcDef _ _ params body decorators _, s =>
    c.exprs decorators (c.deepBody body (c.defaults params s))
  | .asyncFuncDef _ _ params body decorators _, s =>
    c.exprs decorators (c.deepBody body (c.defaults params s))
  | .classDef _ _ bases keywords body decorators, s =>
    c.exprs decorators (c.deepBody body (c.keywords keywords (c.exprs bases s)))
  | .forLoop range target source body orelse, s =>
    c.deepBody orelse
      (c.deepBody body (c.expr source (c.expr target (c.record .forLoop range.start s))))
  | .asyncForLoop range target source body orelse, s =>
    c.deepBody orelse
      (c.deepBody body (c.expr source (c.expr target (c.record .forLoop range.start s))))
  | .whileLoop range test body orelse, s =>
    c.deepBody orelse (c.deepBody body (c.expr test (c.record .whileLoop range.start s)))
  | .conditional range test body orelse, s =>
    c.deepBody orelse (c.deepBody body (c.expr test (c.record .conditional range.start s)))
  | .withBlock range items body, s =>
    c.deepBody body (c.withItems items (c.record .withBlock range.start s))
  | .asyncWithBlock range items body, s =>
    c.deepBody body (c.withItems items (c.record .withBlock range.start s))
  | .matchOn range subject cases, s =>
    c.deepCases cases (c.expr subject (c.recordCases range.start cases s))
  | .tryBlock _ body handlers orelse final, s =>
    c.deepBody final (c.deepBody orelse (c.deepHandlers handlers (c.deepBody body s)))
  | .tryStarBlock _ body handlers orelse final, s =>
    c.deepBody final (c.deepBody orelse (c.deepHandlers handlers (c.deepBody body s)))
  | stmt, s => c.stmt stmt s

def deepBody (c : Counting) : List Stmt → Score → Score
  | [], s => s
  | stmt :: rest, s => c.deepBody rest (c.deepStmt stmt s)

def deepHandlers (c : Counting) : List Handler → Score → Score
  | [], s => s
  | .mk range type _ body :: rest, s =>
    c.deepHandlers rest (c.deepBody body (c.optional type (c.record .handler range.start s)))

def deepCases (c : Counting) : List MatchCase → Score → Score
  | [], s => s
  | .mk _ guard body :: rest, s => c.deepCases rest (c.deepBody body (c.optional guard s))

end

def deepVisit (c : Counting) : Node → Score → Score
  | .stmt s => c.deepStmt s
  | .handler h => c.deepHandlers [h]
  | .expr e => c.expr e

theorem each_exprs_deep (c : Counting) (es : List Expr) (s : Score) :
    each c.visit (es.map .expr) s = each c.deepVisit (es.map .expr) s := by
  induction es generalizing s with
  | nil => rfl
  | cons e rest ih => exact ih _

theorem deepBody_each (c : Counting) (body : List Stmt) (s : Score) :
    c.deepBody body s = each c.deepVisit (body.map .stmt) s := by
  rw [List.map_eq_flatMap]
  apply each_of_loop
  · simp [deepBody]
  · simp [deepBody, each, deepVisit]

theorem deepHandlers_each (c : Counting) (handlers : List Handler) (s : Score) :
    c.deepHandlers handlers s = each c.deepVisit (handlers.map .handler) s := by
  rw [List.map_eq_flatMap]
  apply each_of_loop
  · simp [deepHandlers]
  · intro handler rest s
    obtain ⟨range, type, name, body⟩ := handler
    simp [deepHandlers, each, deepVisit]

theorem deepCases_each (c : Counting) (cases : List MatchCase) (s : Score) :
    c.deepCases cases s = each c.deepVisit (cases.flatMap Node.ofCase) s := by
  apply each_of_loop
  · simp [deepCases]
  · intro case rest s
    obtain ⟨pattern, guard, body⟩ := case
    simp [deepCases, Node.ofCase, deepBody_each, optional_each, each_exprs_deep, each_append]

theorem deepVisit_step (c : Counting) (n : Node) (s : Score) :
    c.deepVisit n s = each c.deepVisit (n.below true) (s.plus (c.own n)) := by
  cases n with
  | expr e => exact (c.expr_step e s).trans (c.each_exprs_deep e.parts _)
  | handler h =>
    obtain ⟨range, type, name, body⟩ := h
    simp [deepVisit, deepHandlers, Node.below, Node.parts, own, Node.points, each_append,
      record_kept, optional_each, each_exprs_deep, deepBody_each]
  | stmt t =>
    cases t <;>
      simp [deepVisit, deepStmt, stmt, Node.below, Node.parts, own, Node.points, each, each_append,
        exprs_each, optional_each, keywords_each, withItems_each, defaults_each, each_exprs_deep,
        deepBody_each, deepHandlers_each, deepCases_each, record_kept, recordCases_kept,
        -List.map_map]

theorem deepBody_run (c : Counting) (body : List Stmt) (s : Score) :
    c.deepBody body s = s.plus (((body.map .stmt).flatMap (Node.walk true)).flatMap c.own) := by
  have visited := c.run_of_step true c.deepVisit c.deepVisit_step
  rw [deepBody_each, each_plus c.deepVisit _ _ fun n _ => visited n, List.flatMap_assoc]

end Counting

namespace Node

/-- The definitions that stand anywhere in a node. -/
def definitions : Node → List Definition
  | stmt s => BranchCount.definitions [s]
  | handler h => BranchCount.definitions h.body
  | expr _ => []

theorem definitions_expr (e : Expr) : (expr e).definitions = [] := rfl

theorem definitions_exprs (es : List Expr) : (es.map expr).flatMap definitions = [] := by
  induction es with
  | nil => rfl
  | cons e rest ih => exact ih

theorem definitions_body (body : List Stmt) :
    (body.map stmt).flatMap definitions = BranchCount.definitions body := by
  rw [List.flatMap_map]
  have single := definitions_flatMap body fun s => [s]
  rw [List.flatMap_singleton'] at single
  exact single.symm

theorem definitions_handlers (handlers : List Handler) :
    (handlers.map handler).flatMap definitions =
      BranchCount.definitions (handlers.flatMap Handler.body) := by
  rw [List.flatMap_map, definitions_flatMap]
  rfl

theorem definitions_cases (cases : List MatchCase) :
    (cases.flatMap ofCase).flatMap definitions =
      BranchCount.definitions (cases.flatMap MatchCase.body) := by
  have one : ∀ case, (ofCase case).flatMap definitions = BranchCount.definitions case.body := by
    rintro ⟨pattern, guard, body⟩
    rw [ofCase, List.flatMap_append, definitions_exprs, definitions_body]
    rfl
  rw [List.flatMap_assoc, definitions_flatMap]
  simp only [one]

/-- The definitions in a node are the one it makes and those in its parts: where counting goes,
there discovery goes as well. -/
theorem definitions_parts (n : Node) :
    n.definitions = n.definition?.toList ++ n.parts.flatMap definitions := by
  cases n with
  | expr e => simp [definitions, definition?, parts, definitions_exprs]
  | handler h =>
    obtain ⟨range, type, name, body⟩ := h
    simp [definitions, definition?, parts, definitions_exprs, definitions_body, Handler.body]
  | stmt s =>
    rw [definitions, definitions_cons]
    cases s <;>
      simp [definition?, Stmt.definition?, Stmt.inner, parts, definitions_expr, definitions_exprs,
        definitions_body, definitions_handlers, definitions_cases, definitions_append]

theorem own_definition (c : Counting) {n : Node} {d : Definition} (found : n.definition? = some d) :
    c.own n = [] := by
  cases n with
  | handler h => cases found
  | expr e => cases found
  | stmt s =>
    cases s with
    | funcDef | asyncFuncDef => rfl
    | _ => cases found

end Node

/-- Walking into definitions meets what the walk around them meets, and the scope of each. -/
def Conserved (c : Counting) (ns : List Node) : Prop :=
  ((ns.flatMap (Node.walk true)).flatMap c.own).Perm
    ((ns.flatMap (Node.walk false)).flatMap c.own ++
      (ns.flatMap Node.definitions).flatMap fun d => d.scope.flatMap c.own)

theorem conserved_each (c : Counting) (ns : List Node) (known : ∀ n ∈ ns, Conserved c [n]) :
    Conserved c ns := by
  simp only [Conserved, List.flatMap_singleton] at known
  unfold Conserved
  rw [List.flatMap_assoc, List.flatMap_assoc, List.flatMap_assoc]
  exact (List.Perm.flatMap_left ns known).trans (List.flatMap_append_perm ns _ _).symm

theorem conserved_node (c : Counting) (n : Node) : Conserved c [n] := by
  induction n using Node.induction with
  | step n ih =>
    have parts := conserved_each c n.parts ih
    unfold Conserved at parts
    simp only [Conserved, List.flatMap_singleton]
    rw [Node.walk_eq true, Node.below_entering, List.flatMap_cons, Node.definitions_parts n,
      Node.walk_eq false, List.flatMap_cons]
    cases found : n.definition? with
    | none =>
      rw [Node.below_other found, List.append_assoc]
      exact parts.append_left _
    | some d =>
      -- The counter skips the definition and adds nothing here; the record holds the scope instead.
      have scope : d.scope = n.parts.flatMap (Node.walk false) := by
        rw [Definition.scope, Node.parts_of_definition found]
      simpa [Node.below_definition found, Node.own_definition c found, scope] using parts

theorem discover_contributions (c : Counting) (module : List Stmt) :
    (discoverFunctions c module).flatMap (·.contributions) =
      (definitions module).flatMap fun d => d.scope.flatMap c.own := by
  rw [discover_records, List.flatMap_map]
  simp [Definition.toRecord, Counting.definition_run, Score.plus]

/-- What a counter finds that goes into every definition is what the counter finds outside all
definitions, and what all records hold: nothing is lost and nothing counted twice. -/
theorem contributions_conserved (c : Counting) (module : List Stmt) :
    (c.deepBody module {}).contributions.Perm
      ((c.body module {}).contributions ++
        (discoverFunctions c module).flatMap (·.contributions)) := by
  have nodes := conserved_each c (module.map .stmt) fun n _ => conserved_node c n
  rw [Conserved, Node.definitions_body] at nodes
  rw [Counting.deepBody_run, Counting.body_run, discover_contributions]
  simpa [Score.plus] using nodes

end BranchCount
