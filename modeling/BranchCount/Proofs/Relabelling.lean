import BranchCount.Proofs.Filtering

/-!
Trees that differ only in the offsets of ranges, and in having plain forms where the other has the
asynchronous and the starred ones. At each of these forms the two trees have different constructors,
which counting and discovery treat apart. A relabelled module has the functions of the module,
relabelled, and their decision points are the same ones at the new offsets.
-/
namespace BranchCount

/-- A change of every offset of a tree, and perhaps of its asynchronous and starred forms. -/
structure Relabel where
  offset : Nat → Nat := id
  /-- Whether these forms become the plain ones. -/
  simplify : Bool := false

namespace Relabel

def flag (r : Relabel) (isAsync : Bool) : Bool :=
  isAsync && !r.simplify

def range (r : Relabel) (x : Range) : Range :=
  ⟨r.offset x.start, r.offset x.stop⟩

mutual

def expr (r : Relabel) : Expr → Expr
  | .chain range op operands => .chain (r.range range) op (r.exprs operands)
  | .named range target value => .named (r.range range) (r.expr target) (r.expr value)
  | .binary range left right => .binary (r.range range) (r.expr left) (r.expr right)
  | .unary range operand => .unary (r.range range) (r.expr operand)
  | .lambda range params body => .lambda (r.range range) (r.params params) (r.expr body)
  | .ternary range test body orelse =>
    .ternary (r.range range) (r.expr test) (r.expr body) (r.expr orelse)
  | .dict range keys values => .dict (r.range range) (r.exprs keys) (r.exprs values)
  | .set range elements => .set (r.range range) (r.exprs elements)
  | .comprehension range into element clauses =>
    .comprehension (r.range range) into (r.expr element) (r.clauses clauses)
  | .dictComprehension range key value clauses =>
    .dictComprehension (r.range range) (r.expr key) (r.expr value) (r.clauses clauses)
  | .await range value => .await (r.range range) (r.expr value)
  | .yield range value => .yield (r.range range) (r.optional value)
  | .yieldFrom range value => .yieldFrom (r.range range) (r.expr value)
  | .compare range left others => .compare (r.range range) (r.expr left) (r.exprs others)
  | .call range callee args keywords =>
    .call (r.range range) (r.expr callee) (r.exprs args) (r.keywords keywords)
  | .formatted range value spec => .formatted (r.range range) (r.expr value) (r.optional spec)
  | .joined range parts => .joined (r.range range) (r.exprs parts)
  | .constant range => .constant (r.range range)
  | .attribute range value => .attribute (r.range range) (r.expr value)
  | .subscript range value index => .subscript (r.range range) (r.expr value) (r.expr index)
  | .starred range value => .starred (r.range range) (r.expr value)
  | .name range => .name (r.range range)
  | .list range elements => .list (r.range range) (r.exprs elements)
  | .tuple range elements => .tuple (r.range range) (r.exprs elements)
  | .slice range lower upper step =>
    .slice (r.range range) (r.optional lower) (r.optional upper) (r.optional step)

def exprs (r : Relabel) : List Expr → List Expr
  | [] => []
  | e :: rest => r.expr e :: r.exprs rest

def optional (r : Relabel) : Option Expr → Option Expr
  | none => none
  | some e => some (r.expr e)

def clauses (r : Relabel) : List Clause → List Clause
  | [] => []
  | .mk isAsync target source filters :: rest =>
    .mk (r.flag isAsync) (r.expr target) (r.expr source) (r.exprs filters) :: r.clauses rest

def params (r : Relabel) : List Param → List Param
  | [] => []
  | .mk role name hint fallback :: rest =>
    .mk role name (r.optional hint) (r.optional fallback) :: r.params rest

def keywords (r : Relabel) : List Keyword → List Keyword
  | [] => []
  | .mk name value :: rest => .mk name (r.expr value) :: r.keywords rest

end

mutual

def pattern (r : Relabel) : Pattern → Pattern
  | .value value => .value (r.expr value)
  | .binding none name => .binding none name
  | .binding (some inner) name => .binding (some (r.pattern inner)) name
  | .star name => .star name
  | .sequence items => .sequence (r.patterns items)
  | .mapping keys items rest => .mapping (r.exprs keys) (r.patterns items) rest
  | .object type items names named =>
    .object (r.expr type) (r.patterns items) names (r.patterns named)
  | .either items => .either (r.patterns items)

def patterns (r : Relabel) : List Pattern → List Pattern
  | [] => []
  | p :: rest => r.pattern p :: r.patterns rest

end

def item (r : Relabel) (x : WithItem) : WithItem :=
  ⟨r.expr x.context, r.optional x.target⟩

mutual

def stmt (r : Relabel) : Stmt → Stmt
  | .funcDef range name params body decorators returns =>
    .funcDef (r.range range) name (r.params params) (r.body body) (r.exprs decorators)
      (r.optional returns)
  | .asyncFuncDef range name params body decorators returns =>
    (if r.simplify then Stmt.funcDef else .asyncFuncDef) (r.range range) name (r.params params)
      (r.body body) (r.exprs decorators) (r.optional returns)
  | .classDef range name bases keywords body decorators =>
    .classDef (r.range range) name (r.exprs bases) (r.keywords keywords) (r.body body)
      (r.exprs decorators)
  | .ret range value => .ret (r.range range) (r.optional value)
  | .delete range targets => .delete (r.range range) (r.exprs targets)
  | .assign range targets value => .assign (r.range range) (r.exprs targets) (r.expr value)
  | .typeAlias range name value => .typeAlias (r.range range) (r.expr name) (r.expr value)
  | .augAssign range target value => .augAssign (r.range range) (r.expr target) (r.expr value)
  | .annAssign range target hint value =>
    .annAssign (r.range range) (r.expr target) (r.expr hint) (r.optional value)
  | .forLoop range target source body orelse =>
    .forLoop (r.range range) (r.expr target) (r.expr source) (r.body body) (r.body orelse)
  | .asyncForLoop range target source body orelse =>
    (if r.simplify then Stmt.forLoop else .asyncForLoop) (r.range range) (r.expr target)
      (r.expr source) (r.body body) (r.body orelse)
  | .whileLoop range test body orelse =>
    .whileLoop (r.range range) (r.expr test) (r.body body) (r.body orelse)
  | .conditional range test body orelse =>
    .conditional (r.range range) (r.expr test) (r.body body) (r.body orelse)
  | .withBlock range items body => .withBlock (r.range range) (items.map r.item) (r.body body)
  | .asyncWithBlock range items body =>
    (if r.simplify then Stmt.withBlock else .asyncWithBlock) (r.range range) (items.map r.item)
      (r.body body)
  | .matchOn range subject cases => .matchOn (r.range range) (r.expr subject) (r.cases cases)
  | .raise range exception cause =>
    .raise (r.range range) (r.optional exception) (r.optional cause)
  | .tryBlock range body handlers orelse final =>
    .tryBlock (r.range range) (r.body body) (r.handlers handlers) (r.body orelse) (r.body final)
  | .tryStarBlock range body handlers orelse final =>
    (if r.simplify then Stmt.tryBlock else .tryStarBlock) (r.range range) (r.body body)
      (r.handlers handlers) (r.body orelse) (r.body final)
  | .assertion range test message =>
    .assertion (r.range range) (r.expr test) (r.optional message)
  | .expr range value => .expr (r.range range) (r.expr value)
  | .inert range form => .inert (r.range range) form

def body (r : Relabel) : List Stmt → List Stmt
  | [] => []
  | s :: rest => r.stmt s :: r.body rest

def handler (r : Relabel) : Handler → Handler
  | .mk range type name body => .mk (r.range range) (r.optional type) name (r.body body)

def handlers (r : Relabel) : List Handler → List Handler
  | [] => []
  | h :: rest => r.handler h :: r.handlers rest

def cases (r : Relabel) : List MatchCase → List MatchCase
  | [] => []
  | .mk pattern guard body :: rest =>
    .mk (r.pattern pattern) (r.optional guard) (r.body body) :: r.cases rest

end

def definition (r : Relabel) (d : Definition) : Definition :=
  ⟨d.name, r.range d.range, r.flag d.isAsync, r.params d.params, r.body d.body,
    r.exprs d.decorators⟩

def node (r : Relabel) : Node → Node
  | .stmt s => .stmt (r.stmt s)
  | .handler h => .handler (r.handler h)
  | .expr e => .expr (r.expr e)

def point (r : Relabel) (p : Point) : Point :=
  { p with offset := r.offset p.offset }

variable (r : Relabel)

/- Relabelling goes through the lists of a tree element by element, and so the parts of a relabelled
node are the relabelled parts of the node. -/

@[simp] theorem exprs_map (es : List Expr) : r.exprs es = es.map r.expr := by
  induction es with
  | nil => rfl
  | cons e rest ih => simp [exprs, ih]

@[simp] theorem optional_map (o : Option Expr) : r.optional o = o.map r.expr := by
  cases o <;> rfl

@[simp] theorem body_map (ss : List Stmt) : r.body ss = ss.map r.stmt := by
  induction ss with
  | nil => rfl
  | cons s rest ih => simp [body, ih]

@[simp] theorem handlers_map (hs : List Handler) : r.handlers hs = hs.map r.handler := by
  induction hs with
  | nil => rfl
  | cons h rest ih => simp [handlers, ih]

theorem clauses_parts (clauses : List Clause) :
    (r.clauses clauses).flatMap Clause.parts = (clauses.flatMap Clause.parts).map r.expr := by
  induction clauses with
  | nil => rfl
  | cons clause rest ih =>
    obtain ⟨isAsync, target, source, filters⟩ := clause
    simp [Relabel.clauses, Clause.parts, ih]

theorem keywords_values (keywords : List Keyword) :
    (r.keywords keywords).map Keyword.value = (keywords.map Keyword.value).map r.expr := by
  induction keywords with
  | nil => rfl
  | cons keyword rest ih =>
    obtain ⟨name, value⟩ := keyword
    simp [Relabel.keywords, Keyword.value, ih]

theorem defaultsOf_params (role : ParamRole) (params : List Param) :
    defaultsOf role (r.params params) = (defaultsOf role params).map r.expr := by
  induction params with
  | nil => rfl
  | cons param rest ih =>
    obtain ⟨own, name, hint, fallback⟩ := param
    rw [Relabel.params, defaultsOf_cons, defaultsOf_cons, ih, List.map_append]
    by_cases same : own = role <;> simp [same, Option.toList_map]

theorem defaults_params (params : List Param) :
    defaults (r.params params) = (defaults params).map r.expr := by
  simp [defaults, defaultsOf_params]

theorem items_parts (items : List WithItem) :
    (items.map r.item).flatMap WithItem.parts = (items.flatMap WithItem.parts).map r.expr := by
  induction items with
  | nil => rfl
  | cons x rest ih => simp [item, WithItem.parts, Option.toList_map, ih]

theorem cases_nodes (cases : List MatchCase) :
    (r.cases cases).flatMap Node.ofCase = (cases.flatMap Node.ofCase).map r.node := by
  induction cases with
  | nil => rfl
  | cons case rest ih =>
    obtain ⟨pattern, guard, body⟩ := case
    simp [Relabel.cases, Node.ofCase, node, Option.toList_map, Function.comp_def, ih]

theorem expr_parts (e : Expr) : (r.expr e).parts = e.parts.map r.expr := by
  cases e <;>
    simp [expr, Expr.parts, clauses_parts, keywords_values, defaults_params, Option.toList_map]

theorem definition_parts (d : Definition) : (r.definition d).parts = d.parts.map r.node := by
  simp [definition, Definition.parts, defaults_params, node, Function.comp_def]

theorem node_parts (n : Node) : (r.node n).parts = n.parts.map r.node := by
  cases n with
  | expr e => simp [node, Node.parts, expr_parts]
  | handler h =>
    obtain ⟨range, type, name, body⟩ := h
    simp [node, handler, Node.parts, Option.toList_map, Function.comp_def]
  | stmt s =>
    cases s with
    | asyncFuncDef | asyncForLoop | asyncWithBlock | tryStarBlock =>
      -- the parts of a form are those of its plain twin, if that takes its place
      cases simplified : r.simplify <;>
        simp [node, stmt, simplified, Node.parts, defaults_params, items_parts, Function.comp_def]
    | _ =>
      simp [node, stmt, Node.parts, defaults_params, keywords_values, items_parts, cases_nodes,
        Option.toList_map, Function.comp_def]

theorem stmt_definition? (s : Stmt) : (r.stmt s).definition? = s.definition?.map r.definition := by
  cases s with
  | asyncFuncDef =>
    cases simplified : r.simplify <;>
      simp [stmt, simplified, Stmt.definition?, definition, flag]
  | asyncForLoop | asyncWithBlock | tryStarBlock =>
    cases simplified : r.simplify <;> simp [stmt, simplified, Stmt.definition?]
  | _ => rfl

theorem node_definition? (n : Node) : (r.node n).definition? = n.definition?.map r.definition := by
  cases n with
  | stmt s => exact r.stmt_definition? s
  | handler h => rfl
  | expr e => rfl

theorem node_below (enter : Bool) (n : Node) :
    (r.node n).below enter = (n.below enter).map r.node := by
  have kept : (r.node n).definition?.isNone = n.definition?.isNone := by
    rw [node_definition?, Option.isNone_map]
  unfold Node.below
  rw [kept, node_parts]
  split <;> rfl

theorem node_walk (enter : Bool) (n : Node) :
    (r.node n).walk enter = (n.walk enter).map r.node := by
  induction n using Node.induction with
  | step n ih =>
    have parts : ∀ m ∈ n.below enter, (r.node m).walk enter = (m.walk enter).map r.node :=
      fun m member => ih m (Node.mem_parts_of_below member)
    rw [Node.walk_eq, Node.walk_eq, node_below, List.flatMap_map, List.map_cons, List.map_flatMap,
      List.flatMap_congr parts]

/- What a node adds by itself depends on the node's own offset and on how many parts of a kind it
has. Patterns are relabelled as well, but whether one is a wildcard shows in its form alone. -/

theorem pattern_isWildcard (p : Pattern) : (r.pattern p).isWildcard = p.isWildcard := by
  cases p with
  | binding inner name => cases inner <;> cases name <;> rfl
  | _ => rfl

theorem casePoints_cases (offset : Nat) (cases : List MatchCase) :
    casePoints (r.offset offset) (r.cases cases) = (casePoints offset cases).map r.point := by
  induction cases with
  | nil => rfl
  | cons case rest ih =>
    obtain ⟨pattern, guard, body⟩ := case
    rw [Relabel.cases, casePoints_cons, casePoints_cons, MatchCase.isCatchAll, pattern_isWildcard,
      ih, List.map_append]
    cases wild : pattern.isWildcard <;> simp [MatchCase.isCatchAll, wild, point, Kind.point]

theorem clausePoints_clauses (kind : Kind) (offset : Nat) (clauses : List Clause) :
    (r.clauses clauses).flatMap (clausePoints kind (r.offset offset)) =
      (clauses.flatMap (clausePoints kind offset)).map r.point := by
  induction clauses with
  | nil => rfl
  | cons clause rest ih =>
    obtain ⟨isAsync, target, source, filters⟩ := clause
    simp [Relabel.clauses, clausePoints, point, Kind.point, Function.comp_def, ih]

theorem chainPoints_point (op : Junction) (offset operands : Nat) :
    chainPoints op (r.offset offset) operands = (chainPoints op offset operands).map r.point := by
  unfold chainPoints
  split <;> rfl

theorem node_points (n : Node) : (r.node n).points = n.points.map r.point := by
  cases n with
  | expr e =>
    cases e <;>
      simp [node, expr, Node.points, point, Kind.point, range, chainPoints_point,
        clausePoints_clauses]
  | handler h =>
    obtain ⟨range, type, name, body⟩ := h
    rfl
  | stmt s =>
    cases s with
    | asyncFuncDef | asyncForLoop | asyncWithBlock | tryStarBlock =>
      cases simplified : r.simplify <;>
        simp [node, stmt, simplified, Node.points, point, Kind.point, range]
    | _ => simp [node, stmt, Node.points, point, Kind.point, range, casePoints_cases]

theorem definition_points (d : Definition) :
    (r.definition d).points = d.points.map r.point := by
  have walks : (r.definition d).scope = d.scope.map r.node := by
    rw [Definition.scope, definition_parts, List.flatMap_map, Definition.scope, List.map_flatMap]
    simp only [node_walk]
  rw [Definition.points, walks, List.flatMap_map, Definition.points, List.map_flatMap]
  simp only [node_points]

/- Discovery goes through statements only, so that the same is said once more of statements. -/

theorem handlers_bodies (handlers : List Handler) :
    (handlers.map r.handler).flatMap Handler.body = (handlers.flatMap Handler.body).map r.stmt := by
  rw [List.flatMap_map, List.map_flatMap]
  apply List.flatMap_congr
  rintro ⟨range, type, name, body⟩ -
  exact r.body_map body

theorem cases_bodies (cases : List MatchCase) :
    (r.cases cases).flatMap MatchCase.body = (cases.flatMap MatchCase.body).map r.stmt := by
  induction cases with
  | nil => rfl
  | cons case rest ih =>
    obtain ⟨pattern, guard, body⟩ := case
    simp [Relabel.cases, MatchCase.body, ih]

theorem stmt_inner (s : Stmt) : (r.stmt s).inner = s.inner.map r.stmt := by
  cases s with
  | asyncFuncDef | asyncForLoop | asyncWithBlock | tryStarBlock =>
    cases simplified : r.simplify <;> simp [stmt, simplified, Stmt.inner, handlers_bodies]
  | _ => simp [stmt, Stmt.inner, handlers_bodies, cases_bodies]

theorem stmt_preorder (s : Stmt) : (r.stmt s).preorder = s.preorder.map r.stmt := by
  induction s using Stmt.induction with
  | step s ih =>
    rw [Stmt.preorder_eq, Stmt.preorder_eq, stmt_inner, List.flatMap_map, List.map_cons,
      List.map_flatMap, List.flatMap_congr ih]

theorem definitions_body (module : List Stmt) :
    definitions (r.body module) = (definitions module).map r.definition := by
  have walks : (r.body module).flatMap Stmt.preorder =
      (module.flatMap Stmt.preorder).map r.stmt := by
    rw [body_map, List.flatMap_map, List.map_flatMap]
    simp only [stmt_preorder]
  rw [definitions, walks, List.filterMap_map, definitions, List.map_filterMap]
  simp only [Function.comp_def, stmt_definition?]

/-- A change that each record undergoes when its definition is relabelled is what discovery shows of
the relabelled module. -/
theorem discover_body {c d : Counting} {change : FunctionRecord → FunctionRecord}
    (each : ∀ f : Definition, (r.definition f).toRecord d = change (f.toRecord c))
    (module : List Stmt) :
    discoverFunctions d (r.body module) = (discoverFunctions c module).map change := by
  rw [discover_records, definitions_body, discover_records, List.map_map, List.map_map]
  exact List.map_congr_left fun f _ => each f

/-- Every asynchronous and every starred form becomes the plain one. -/
def plain : Relabel where
  simplify := true

theorem plain_toRecord (c : Counting) (d : Definition) :
    (plain.definition d).toRecord c = { d.toRecord c with isAsync := false } := by
  have points : (plain.definition d).points = d.points := by
    rw [definition_points]
    exact List.map_id d.points
  have score : c.definition (plain.definition d) = c.definition d := by
    rw [Counting.definition_kept, points, Counting.definition_kept]
  rw [Definition.toRecord, score]
  simp [Definition.toRecord, definition, plain, flag, range]

end Relabel

/-- A module and the module with plain forms throughout have the same records, up to the mark of
asynchronous functions. -/
theorem discoverFunctions_plain (c : Counting) (module : List Stmt) :
    discoverFunctions c (Relabel.plain.body module) =
      (discoverFunctions c module).map fun f => { f with isAsync := false } :=
  Relabel.plain.discover_body (Relabel.plain_toRecord c) module

end BranchCount
