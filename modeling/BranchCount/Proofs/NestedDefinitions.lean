import Mathlib.Data.List.Forall2
import BranchCount.Proofs.Filtering

/-!
The score of a function does not depend on the definitions nested in it. Two bodies are compared
statement by statement, and where the one has a definition the other may have any definition or
`pass`. The counter visits the same nodes in both. Records come in groups, one for each definition
that is nested in no other, and the first of a group is the same in two modules that differ only
inside nested definitions.
-/
namespace BranchCount

/- Two statements that are the same up to the definitions in them, for which `swap` says what may
stand in their place. Nothing else is looked at inside a definition. -/
mutual

inductive Stmt.Alike (swap : Stmt → Stmt → Prop) : Stmt → Stmt → Prop
  | same (s : Stmt) : Stmt.Alike swap s s
  | swapped {s t : Stmt} (defines : s.definition?.isSome) (swaps : swap s t) : Stmt.Alike swap s t
  | classDef {range : Range} {name : String} {bases : List Expr} {keywords : List Keyword}
      {body body' : List Stmt} {decorators : List Expr}
      (block : List.Forall₂ (Stmt.Alike swap) body body') :
      Stmt.Alike swap (.classDef range name bases keywords body decorators)
        (.classDef range name bases keywords body' decorators)
  | forLoop {range : Range} {target source : Expr} {body body' orelse orelse' : List Stmt}
      (block : List.Forall₂ (Stmt.Alike swap) body body')
      (otherwise : List.Forall₂ (Stmt.Alike swap) orelse orelse') :
      Stmt.Alike swap (.forLoop range target source body orelse)
        (.forLoop range target source body' orelse')
  | asyncForLoop {range : Range} {target source : Expr} {body body' orelse orelse' : List Stmt}
      (block : List.Forall₂ (Stmt.Alike swap) body body')
      (otherwise : List.Forall₂ (Stmt.Alike swap) orelse orelse') :
      Stmt.Alike swap (.asyncForLoop range target source body orelse)
        (.asyncForLoop range target source body' orelse')
  | whileLoop {range : Range} {test : Expr} {body body' orelse orelse' : List Stmt}
      (block : List.Forall₂ (Stmt.Alike swap) body body')
      (otherwise : List.Forall₂ (Stmt.Alike swap) orelse orelse') :
      Stmt.Alike swap (.whileLoop range test body orelse) (.whileLoop range test body' orelse')
  | conditional {range : Range} {test : Expr} {body body' orelse orelse' : List Stmt}
      (block : List.Forall₂ (Stmt.Alike swap) body body')
      (otherwise : List.Forall₂ (Stmt.Alike swap) orelse orelse') :
      Stmt.Alike swap (.conditional range test body orelse) (.conditional range test body' orelse')
  | withBlock {range : Range} {items : List WithItem} {body body' : List Stmt}
      (block : List.Forall₂ (Stmt.Alike swap) body body') :
      Stmt.Alike swap (.withBlock range items body) (.withBlock range items body')
  | asyncWithBlock {range : Range} {items : List WithItem} {body body' : List Stmt}
      (block : List.Forall₂ (Stmt.Alike swap) body body') :
      Stmt.Alike swap (.asyncWithBlock range items body) (.asyncWithBlock range items body')
  | matchOn {range : Range} {subject : Expr} {cases cases' : List MatchCase}
      (arms : List.Forall₂ (MatchCase.Alike swap) cases cases') :
      Stmt.Alike swap (.matchOn range subject cases) (.matchOn range subject cases')
  | tryBlock {range : Range} {body body' orelse orelse' final final' : List Stmt}
      {handlers handlers' : List Handler} (block : List.Forall₂ (Stmt.Alike swap) body body')
      (handled : List.Forall₂ (Handler.Alike swap) handlers handlers')
      (otherwise : List.Forall₂ (Stmt.Alike swap) orelse orelse')
      (closing : List.Forall₂ (Stmt.Alike swap) final final') :
      Stmt.Alike swap (.tryBlock range body handlers orelse final)
        (.tryBlock range body' handlers' orelse' final')
  | tryStarBlock {range : Range} {body body' orelse orelse' final final' : List Stmt}
      {handlers handlers' : List Handler} (block : List.Forall₂ (Stmt.Alike swap) body body')
      (handled : List.Forall₂ (Handler.Alike swap) handlers handlers')
      (otherwise : List.Forall₂ (Stmt.Alike swap) orelse orelse')
      (closing : List.Forall₂ (Stmt.Alike swap) final final') :
      Stmt.Alike swap (.tryStarBlock range body handlers orelse final)
        (.tryStarBlock range body' handlers' orelse' final')

inductive Handler.Alike (swap : Stmt → Stmt → Prop) : Handler → Handler → Prop
  | mk {range : Range} {type : Option Expr} {name : Option String} {body body' : List Stmt}
      (block : List.Forall₂ (Stmt.Alike swap) body body') :
      Handler.Alike swap (.mk range type name body) (.mk range type name body')

inductive MatchCase.Alike (swap : Stmt → Stmt → Prop) : MatchCase → MatchCase → Prop
  | mk {pattern : Pattern} {guard : Option Expr} {body body' : List Stmt}
      (block : List.Forall₂ (Stmt.Alike swap) body body') :
      MatchCase.Alike swap (.mk pattern guard body) (.mk pattern guard body')

end

namespace Stmt

/-- What adds nothing to the function around it: a definition, or `pass`. -/
def Silent (s : Stmt) : Prop :=
  s.definition?.isSome ∨ ∃ range, s = .inert range .pass

/-- Inside a function any definition or `pass` may stand in place of a definition. -/
def Refilled : Stmt → Stmt → Prop :=
  Alike fun _ t => t.Silent

/-- The same definition but for its body, which is refilled. -/
inductive SameHead : Stmt → Stmt → Prop
  | funcDef {range : Range} {name : String} {params : List Param} {body body' : List Stmt}
      {decorators : List Expr} {returns : Option Expr}
      (refilled : List.Forall₂ Refilled body body') :
      SameHead (.funcDef range name params body decorators returns)
        (.funcDef range name params body' decorators returns)
  | asyncFuncDef {range : Range} {name : String} {params : List Param} {body body' : List Stmt}
      {decorators : List Expr} {returns : Option Expr}
      (refilled : List.Forall₂ Refilled body body') :
      SameHead (.asyncFuncDef range name params body decorators returns)
        (.asyncFuncDef range name params body' decorators returns)

/-- Outside of functions definitions stay, and only inside them something is replaced. -/
def Reworked : Stmt → Stmt → Prop :=
  Alike SameHead

end Stmt

inductive Node.Alike (swap : Stmt → Stmt → Prop) : Node → Node → Prop
  | stmt {s t : Stmt} (alike : s.Alike swap t) : Node.Alike swap (.stmt s) (.stmt t)
  | handler {h k : Handler} (alike : h.Alike swap k) : Node.Alike swap (.handler h) (.handler k)
  | expr (e : Expr) : Node.Alike swap (.expr e) (.expr e)

/-- Lists in step, each element giving a list, give lists in step. -/
theorem forall₂_flatMap {α β γ δ : Type} {R : α → β → Prop} {S : γ → δ → Prop} {f : α → List γ}
    {g : β → List δ} {xs : List α} {ys : List β} (related : List.Forall₂ R xs ys)
    (each : ∀ x ∈ xs, ∀ y, R x y → List.Forall₂ S (f x) (g y)) :
    List.Forall₂ S (xs.flatMap f) (ys.flatMap g) := by
  induction related with
  | nil => exact .nil
  | @cons x y xs ys head tail ih =>
    have here := each x List.mem_cons_self y head
    have there := ih fun z member => each z (List.mem_cons_of_mem x member)
    exact List.rel_append here there

section Alike

variable {swap : Stmt → Stmt → Prop}

theorem block_refl (body : List Stmt) : List.Forall₂ (Stmt.Alike swap) body body :=
  List.forall₂_same.mpr fun s _ => .same s

theorem nodes_refl (ns : List Node) : List.Forall₂ (Node.Alike swap) ns ns := by
  apply List.forall₂_same.mpr
  intro n _
  cases n with
  | stmt s => exact .stmt (.same s)
  | handler h =>
    obtain ⟨range, type, name, body⟩ := h
    exact .handler (.mk (block_refl body))
  | expr e => exact .expr e

theorem nodes_append {ms ms' ns ns' : List Node} (first : List.Forall₂ (Node.Alike swap) ms ms')
    (second : List.Forall₂ (Node.Alike swap) ns ns') :
    List.Forall₂ (Node.Alike swap) (ms ++ ns) (ms' ++ ns') :=
  List.rel_append first second

theorem nodes_body {body body' : List Stmt} (block : List.Forall₂ (Stmt.Alike swap) body body') :
    List.Forall₂ (Node.Alike swap) (body.map .stmt) (body'.map .stmt) := by
  rw [List.forall₂_map_left_iff, List.forall₂_map_right_iff]
  exact block.imp fun s t => .stmt

theorem nodes_handlers {handlers handlers' : List Handler}
    (handled : List.Forall₂ (Handler.Alike swap) handlers handlers') :
    List.Forall₂ (Node.Alike swap) (handlers.map .handler) (handlers'.map .handler) := by
  rw [List.forall₂_map_left_iff, List.forall₂_map_right_iff]
  exact handled.imp fun h k => .handler

theorem nodes_cases {cases cases' : List MatchCase}
    (arms : List.Forall₂ (MatchCase.Alike swap) cases cases') :
    List.Forall₂ (Node.Alike swap) (cases.flatMap Node.ofCase) (cases'.flatMap Node.ofCase) := by
  apply forall₂_flatMap arms
  rintro _ - _ ⟨block⟩
  exact nodes_append (nodes_refl _) (nodes_body block)

theorem bodies_handlers {handlers handlers' : List Handler}
    (handled : List.Forall₂ (Handler.Alike swap) handlers handlers') :
    List.Forall₂ (Stmt.Alike swap) (handlers.flatMap Handler.body)
      (handlers'.flatMap Handler.body) := by
  apply forall₂_flatMap handled
  rintro _ - _ ⟨block⟩
  exact block

theorem bodies_cases {cases cases' : List MatchCase}
    (arms : List.Forall₂ (MatchCase.Alike swap) cases cases') :
    List.Forall₂ (Stmt.Alike swap) (cases.flatMap MatchCase.body)
      (cases'.flatMap MatchCase.body) := by
  apply forall₂_flatMap arms
  rintro _ - _ ⟨block⟩
  exact block

theorem casePoints_alike (offset : Nat) {cases cases' : List MatchCase}
    (arms : List.Forall₂ (MatchCase.Alike swap) cases cases') :
    casePoints offset cases = casePoints offset cases' := by
  induction arms with
  | nil => rfl
  | @cons case case' rest rest' head tail ih =>
    have same : case.isCatchAll = case'.isCatchAll := by
      obtain ⟨block⟩ := head
      rfl
    rw [casePoints_cons, casePoints_cons, same, ih]

/-- All that a comparison finds at a statement which is no definition. -/
structure InStep (swap : Stmt → Stmt → Prop) (s t : Stmt) : Prop where
  other : t.definition? = none
  points : (Node.stmt s).points = (Node.stmt t).points
  parts : List.Forall₂ (Node.Alike swap) (Node.stmt s).parts (Node.stmt t).parts
  inner : List.Forall₂ (Stmt.Alike swap) s.inner t.inner

theorem Stmt.Alike.inStep {s t : Stmt} (alike : s.Alike swap t) (other : s.definition? = none) :
    InStep swap s t := by
  cases alike with
  | same s => exact ⟨other, rfl, nodes_refl _, block_refl _⟩
  | swapped defines swaps => simp [other] at defines
  | classDef block =>
    exact ⟨rfl, rfl, nodes_append (nodes_append (nodes_refl _) (nodes_body block)) (nodes_refl _),
      block⟩
  | forLoop block otherwise | asyncForLoop block otherwise =>
    exact ⟨rfl, rfl,
      nodes_append (nodes_append (nodes_refl [_, _]) (nodes_body block)) (nodes_body otherwise),
      List.rel_append block otherwise⟩
  | whileLoop block otherwise =>
    exact ⟨rfl, rfl,
      nodes_append (nodes_append (nodes_refl [_]) (nodes_body block)) (nodes_body otherwise),
      List.rel_append block otherwise⟩
  | conditional block otherwise =>
    exact ⟨rfl, rfl,
      nodes_append (nodes_append (nodes_refl [_]) (nodes_body block)) (nodes_body otherwise),
      List.rel_append block otherwise⟩
  | withBlock block | asyncWithBlock block =>
    exact ⟨rfl, rfl, nodes_append (nodes_refl _) (nodes_body block), block⟩
  | matchOn arms =>
    exact ⟨rfl, casePoints_alike _ arms, nodes_append (nodes_refl [_]) (nodes_cases arms),
      bodies_cases arms⟩
  | tryBlock block handled otherwise closing | tryStarBlock block handled otherwise closing =>
    exact ⟨rfl, rfl,
      nodes_append (nodes_append (nodes_append (nodes_body block) (nodes_handlers handled))
        (nodes_body otherwise)) (nodes_body closing),
      List.rel_append (List.rel_append (List.rel_append block (bodies_handlers handled)) otherwise)
        closing⟩

theorem Stmt.Alike.of_definition {s t : Stmt} {d : Definition} (alike : s.Alike swap t)
    (defines : s.definition? = some d) : s = t ∨ swap s t := by
  cases alike with
  | same s => exact .inl rfl
  | swapped _ swaps => exact .inr swaps
  | _ => cases defines

end Alike

namespace Stmt.Silent

theorem points_eq {s : Stmt} (silent : s.Silent) : (Node.stmt s).points = [] := by
  rcases silent with defines | ⟨range, rfl⟩
  · cases s with
    | funcDef | asyncFuncDef => rfl
    | _ => cases defines
  · rfl

theorem below_eq {s : Stmt} (silent : s.Silent) : (Node.stmt s).below false = [] := by
  rcases silent with defines | ⟨range, rfl⟩
  · obtain ⟨d, found⟩ := Option.isSome_iff_exists.mp defines
    exact Node.below_definition found
  · rfl

end Stmt.Silent

def Node.Refilled : Node → Node → Prop :=
  Node.Alike fun _ t => t.Silent

/-- One step of the counter: the two nodes add the same by themselves, and what it goes on to is in
step again. -/
theorem Node.Refilled.step {m n : Node} (refilled : m.Refilled n) :
    m.points = n.points ∧ List.Forall₂ Node.Refilled (m.below false) (n.below false) := by
  cases refilled with
  | expr e => exact ⟨rfl, nodes_refl _⟩
  | handler alike =>
    obtain ⟨block⟩ := alike
    refine ⟨rfl, ?_⟩
    rw [Node.below_other rfl, Node.below_other rfl]
    exact nodes_append (nodes_refl _) (nodes_body block)
  | @stmt s t alike =>
    cases found : s.definition? with
    | none =>
      have inStep := alike.inStep found
      have before : (Node.stmt s).below false = (Node.stmt s).parts := Node.below_other found
      have after : (Node.stmt t).below false = (Node.stmt t).parts := Node.below_other inStep.other
      rw [before, after]
      exact ⟨inStep.points, inStep.parts⟩
    | some d =>
      -- the counter adds nothing here and goes nowhere, whatever has taken the definition's place
      have before : s.Silent := .inl (by simp [found])
      have after : t.Silent := by
        rcases alike.of_definition found with rfl | silent
        · exact before
        · exact silent
      rw [before.points_eq, after.points_eq, before.below_eq, after.below_eq]
      exact ⟨rfl, .nil⟩

/-- The whole walk of the counter meets the same decision points. -/
theorem Node.Refilled.walk_points {m n : Node} (refilled : m.Refilled n) :
    (m.walk false).flatMap Node.points = (n.walk false).flatMap Node.points := by
  induction m using Node.induction generalizing n with
  | step m ih =>
    obtain ⟨points, below⟩ := refilled.step
    have parts : List.Forall₂ (· = ·)
        ((m.below false).flatMap fun k => (k.walk false).flatMap Node.points)
        ((n.below false).flatMap fun k => (k.walk false).flatMap Node.points) := by
      apply forall₂_flatMap below
      intro k member l alike
      rw [ih k (Node.mem_parts_of_below member) alike, List.forall₂_eq_eq_eq]
    rw [List.forall₂_eq_eq_eq] at parts
    rw [Node.walk_eq, Node.walk_eq, List.flatMap_cons, List.flatMap_cons, points,
      List.flatMap_assoc, List.flatMap_assoc, parts]

theorem definition_refilled (c : Counting) (d : Definition) {body : List Stmt}
    (refilled : List.Forall₂ Stmt.Refilled d.body body) :
    c.definition { d with body := body } = c.definition d := by
  have parts : List.Forall₂ Node.Refilled d.parts ({ d with body := body } : Definition).parts :=
    nodes_append (nodes_append (nodes_refl _) (nodes_body refilled)) (nodes_refl _)
  have points : List.Forall₂ (· = ·) d.points ({ d with body := body } : Definition).points := by
    rw [Definition.points, Definition.scope, Definition.points, Definition.scope,
      List.flatMap_assoc, List.flatMap_assoc]
    apply forall₂_flatMap parts
    intro m _ n alike
    rw [alike.walk_points, List.forall₂_eq_eq_eq]
  rw [List.forall₂_eq_eq_eq] at points
  rw [Counting.definition_kept, ← points, Counting.definition_kept]

namespace Stmt

/-- The definitions in a statement that are nested in no other. -/
def outermost (s : Stmt) : List Definition :=
  match s.definition? with
  | some d => [d]
  | none => s.inner.attach.flatMap fun t => t.1.outermost
termination_by sizeOf s
decreasing_by exact inner_size t.2

theorem outermost_definition {s : Stmt} {d : Definition} (defines : s.definition? = some d) :
    s.outermost = [d] := by
  rw [outermost, defines]

theorem outermost_other {s : Stmt} (other : s.definition? = none) :
    s.outermost = s.inner.flatMap outermost := by
  rw [outermost, other]
  simp

theorem definition?_body {s : Stmt} {d : Definition} (defines : s.definition? = some d) :
    d.body = s.inner := by
  cases s <;> cases defines <;> rfl

theorem definitions_outermost (s : Stmt) :
    definitions [s] = s.outermost.flatMap fun d => d :: definitions d.body := by
  induction s using Stmt.induction with
  | step s ih =>
    rw [definitions_cons]
    cases found : s.definition? with
    | some d => simp [outermost_definition found, definition?_body found]
    | none =>
      have single := definitions_flatMap s.inner fun t => [t]
      rw [List.flatMap_singleton', List.flatMap_congr ih] at single
      simp [outermost_other found, single, List.flatMap_assoc]

theorem Alike.outermost {swap : Stmt → Stmt → Prop} (R : Definition → Definition → Prop)
    (refl : ∀ d, R d d)
    (swaps : ∀ s t, swap s t →
      ∃ d e, s.definition? = some d ∧ t.definition? = some e ∧ R d e)
    {s t : Stmt} (alike : s.Alike swap t) : List.Forall₂ R s.outermost t.outermost := by
  induction s using Stmt.induction generalizing t with
  | step s ih =>
    cases found : s.definition? with
    | none =>
      have inStep := alike.inStep found
      rw [outermost_other found, outermost_other inStep.other]
      exact forall₂_flatMap inStep.inner fun u member v alike => ih u member alike
    | some d =>
      rcases alike.of_definition found with rfl | swapped
      · exact List.forall₂_same.mpr fun e _ => refl e
      · obtain ⟨d, e, before, after, related⟩ := swaps s t swapped
        rw [outermost_definition before, outermost_definition after]
        exact .cons related .nil

end Stmt

/-- The functions of a module, the methods of its classes and whatever else is defined outside of
all functions. -/
def outermost (module : List Stmt) : List Definition :=
  module.flatMap Stmt.outermost

/-- The records of a module: those of the outermost definitions, each followed by the records of
what is nested in it. -/
theorem discover_outermost (c : Counting) (module : List Stmt) :
    discoverFunctions c module =
      (outermost module).flatMap fun d => d.toRecord c :: discoverFunctions c d.body := by
  have groups : definitions module =
      (outermost module).flatMap fun d => d :: definitions d.body := by
    have single := definitions_flatMap module fun s => [s]
    rw [List.flatMap_singleton'] at single
    rw [single, outermost, List.flatMap_assoc]
    simp only [Stmt.definitions_outermost]
  rw [discover_records, groups, List.map_flatMap]
  simp only [List.map_cons, discover_records]

theorem Stmt.SameHead.records (c : Counting) {s t : Stmt} (same : s.SameHead t) :
    ∃ d e, s.definition? = some d ∧ t.definition? = some e ∧ e.toRecord c = d.toRecord c := by
  have record (d : Definition) {body : List Stmt} (refilled : List.Forall₂ Refilled d.body body) :
      ({ d with body := body } : Definition).toRecord c = d.toRecord c := by
    rw [Definition.toRecord, definition_refilled c d refilled]
    rfl
  cases same with
  | funcDef refilled | asyncFuncDef refilled =>
    exact ⟨_, _, rfl, rfl, record ⟨_, _, _, _, _, _⟩ refilled⟩

/-- Whatever stands in place of the definitions nested in a function, its score and contributions
are the same. So modules that differ only inside nested definitions give each outermost definition
the same record, at the head of its group of records. -/
theorem nested_definitions_ignored (c : Counting) :
    (∀ (d : Definition) (body : List Stmt), List.Forall₂ Stmt.Refilled d.body body →
      c.definition { d with body := body } = c.definition d) ∧
    ∀ module other : List Stmt, List.Forall₂ Stmt.Reworked module other →
      List.Forall₂ (fun d e => e.toRecord c = d.toRecord c) (outermost module)
        (outermost other) ∧
      discoverFunctions c module =
        (outermost module).flatMap (fun d => d.toRecord c :: discoverFunctions c d.body) ∧
      discoverFunctions c other =
        (outermost other).flatMap (fun d => d.toRecord c :: discoverFunctions c d.body) := by
  constructor
  · intro d body refilled
    exact definition_refilled c d refilled
  · intro module other reworked
    refine ⟨?_, discover_outermost c module, discover_outermost c other⟩
    apply forall₂_flatMap reworked
    intro s _ t alike
    exact Stmt.Alike.outermost (fun d e => e.toRecord c = d.toRecord c) (fun _ => rfl)
      (fun _ _ same => same.records c) alike

/-- A method with a decorated definition under a conditional, and the method with `pass` there. -/
theorem nested_definitions_ignored_method :
    let r : Range := ⟨0, 1⟩
    let c : Counting := ⟨Preset.standardRules, ⟨[0]⟩⟩
    let inner : Stmt := .asyncFuncDef r "g"
      [.mk .positional "x" none (some (.ternary r (.name r) (.name r) (.name r)))]
      [.whileLoop r (.name r) [] []] [.chain r .conj [.name r, .name r]] none
    let body (nested : Stmt) : List Stmt := [.conditional r (.name r) [nested] []]
    let f (nested : Stmt) : Definition := ⟨"f", r, false, [], body nested, []⟩
    let module (nested : Stmt) : List Stmt :=
      [.classDef r "K" [] [] [.funcDef r "f" [] (body nested) [] none] []]
    let pass : Stmt := .inert r .pass
    List.Forall₂ Stmt.Refilled (body inner) (body pass) ∧
    List.Forall₂ Stmt.Reworked (module inner) (module pass) ∧
    (discoverFunctions c (module inner)).map (fun g => (g.name, g.complexity)) =
      [("f", 2), ("g", 4)] ∧
    c.definition (f pass) = c.definition (f inner) ∧
    List.Forall₂ (fun d e => e.toRecord c = d.toRecord c) (outermost (module inner))
      (outermost (module pass)) := by
  intro r c inner body f module pass
  have nested : List.Forall₂ Stmt.Refilled [inner] [pass] :=
    .cons (.swapped rfl (.inr ⟨r, rfl⟩)) .nil
  have refilled : List.Forall₂ Stmt.Refilled (body inner) (body pass) :=
    .cons (.conditional nested .nil) .nil
  have head : Stmt.SameHead (.funcDef r "f" [] (body inner) [] none)
      (.funcDef r "f" [] (body pass) [] none) :=
    .funcDef refilled
  have reworked : List.Forall₂ Stmt.Reworked (module inner) (module pass) :=
    .cons (.classDef (.cons (.swapped rfl head) .nil)) .nil
  obtain ⟨scores, records⟩ := nested_definitions_ignored c
  exact ⟨refilled, reworked, rfl, scores (f inner) _ refilled, (records _ _ reworked).1⟩

end BranchCount
