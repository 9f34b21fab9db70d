import BranchCount.Syntax

/-!
The nodes of a syntax tree as one type, with the parts a score can depend on.

Statements, handlers and expressions are nodes. A clause, a keyword argument, an item of a `with`
and a `case` are not: what they hold belongs to the node around them. Annotations of parameters and
results, the inside of a type alias and match patterns are no parts of anything.
-/
namespace BranchCount

def Param.role : Param → ParamRole
  | .mk role _ _ _ => role

def Param.fallback : Param → Option Expr
  | .mk _ _ _ fallback => fallback

@[simp] theorem Param.role_mk (role : ParamRole) (name : String) (hint fallback : Option Expr) :
    (Param.mk role name hint fallback).role = role := rfl

@[simp] theorem Param.fallback_mk (role : ParamRole) (name : String) (hint fallback : Option Expr) :
    (Param.mk role name hint fallback).fallback = fallback := rfl

def Clause.parts : Clause → List Expr
  | .mk _ target source filters => target :: source :: filters

def Keyword.value : Keyword → Expr
  | .mk _ value => value

def WithItem.parts (item : WithItem) : List Expr :=
  item.context :: item.target.toList

/-- The default values of the parameters in one role. -/
def defaultsOf (role : ParamRole) (params : List Param) : List Expr :=
  (params.filter fun p => p.role = role).filterMap Param.fallback

theorem defaultsOf_cons (role r : ParamRole) (name : String) (hint fallback : Option Expr)
    (rest : List Param) : defaultsOf role (.mk r name hint fallback :: rest) =
      (if r = role then fallback.toList else []) ++ defaultsOf role rest := by
  by_cases same : r = role
  · cases fallback with
    | none => simp [defaultsOf, same, List.filterMap_cons]
    | some e => simp [defaultsOf, same]
  · simp [defaultsOf, same]

/-- All default values, role by role. -/
def defaults (params : List Param) : List Expr :=
  defaultsOf .positionalOnly params ++ defaultsOf .positional params ++
    defaultsOf .keywordOnly params

/-- The expressions directly inside an expression. -/
def Expr.parts : Expr → List Expr
  | .chain _ _ operands => operands
  | .named _ target value => [target, value]
  | .binary _ left right => [left, right]
  | .unary _ operand => [operand]
  | .lambda _ params body => defaults params ++ [body]
  | .ternary _ test body orelse => [test, body, orelse]
  | .dict _ keys values => keys ++ values
  | .set _ elements => elements
  | .comprehension _ _ element clauses => element :: clauses.flatMap Clause.parts
  | .dictComprehension _ key value clauses => key :: value :: clauses.flatMap Clause.parts
  | .await _ value => [value]
  | .yield _ value => value.toList
  | .yieldFrom _ value => [value]
  | .compare _ left others => left :: others
  | .call _ callee args keywords => callee :: args ++ keywords.map Keyword.value
  | .formatted _ value spec => value :: spec.toList
  | .joined _ parts => parts
  | .constant _ => []
  | .attribute _ value => [value]
  | .subscript _ value index => [value, index]
  | .starred _ value => [value]
  | .name _ => []
  | .list _ elements => elements
  | .tuple _ elements => elements
  | .slice _ lower upper step => lower.toList ++ upper.toList ++ step.toList

inductive Node where
  | stmt (s : Stmt)
  | handler (h : Handler)
  | expr (e : Expr)

def Handler.range : Handler → Range
  | .mk range _ _ _ => range

/-- The bytes a node spans. -/
def Node.range : Node → Range
  | .stmt s => s.range
  | .handler h => h.range
  | .expr e => e.range

/-- What belongs to a function: its default values, its body and its decorators. -/
def Definition.parts (d : Definition) : List Node :=
  (defaults d.params).map .expr ++ d.body.map .stmt ++ d.decorators.map .expr

namespace Node

/-- The guard of a `case`, then its body. -/
def ofCase : MatchCase → List Node
  | .mk _ guard body => guard.toList.map expr ++ body.map stmt

/-- The nodes directly inside a node, in the order in which they are visited. -/
def parts : Node → List Node
  | stmt (.funcDef _ _ params body decorators _) =>
    (defaults params).map expr ++ body.map stmt ++ decorators.map expr
  | stmt (.asyncFuncDef _ _ params body decorators _) =>
    (defaults params).map expr ++ body.map stmt ++ decorators.map expr
  | stmt (.classDef _ _ bases keywords body decorators) =>
    bases.map expr ++ (keywords.map Keyword.value).map expr ++ body.map stmt ++
      decorators.map expr
  | stmt (.ret _ value) => value.toList.map expr
  | stmt (.delete _ targets) => targets.map expr
  | stmt (.assign _ targets value) => targets.map expr ++ [expr value]
  | stmt (.typeAlias ..) => []
  | stmt (.augAssign _ target value) => [expr target, expr value]
  | stmt (.annAssign _ target hint value) => expr target :: expr hint :: value.toList.map expr
  | stmt (.forLoop _ target source body orelse) =>
    expr target :: expr source :: body.map stmt ++ orelse.map stmt
  | stmt (.asyncForLoop _ target source body orelse) =>
    expr target :: expr source :: body.map stmt ++ orelse.map stmt
  | stmt (.whileLoop _ test body orelse) => expr test :: body.map stmt ++ orelse.map stmt
  | stmt (.conditional _ test body orelse) => expr test :: body.map stmt ++ orelse.map stmt
  | stmt (.withBlock _ items body) =>
    (items.flatMap WithItem.parts).map expr ++ body.map stmt
  | stmt (.asyncWithBlock _ items body) =>
    (items.flatMap WithItem.parts).map expr ++ body.map stmt
  | stmt (.matchOn _ subject cases) => expr subject :: cases.flatMap ofCase
  | stmt (.raise _ exception cause) => exception.toList.map expr ++ cause.toList.map expr
  | stmt (.tryBlock _ body handlers orelse final) =>
    body.map stmt ++ handlers.map handler ++ orelse.map stmt ++ final.map stmt
  | stmt (.tryStarBlock _ body handlers orelse final) =>
    body.map stmt ++ handlers.map handler ++ orelse.map stmt ++ final.map stmt
  | stmt (.assertion _ test message) => expr test :: message.toList.map expr
  | stmt (.expr _ value) => [expr value]
  | stmt (.inert ..) => []
  | handler (.mk _ type _ body) => type.toList.map expr ++ body.map stmt
  | expr e => e.parts.map expr

/-- The definition a node makes, if it is a `def` or an `async def`. -/
def definition? : Node → Option Definition
  | stmt s => s.definition?
  | _ => none

theorem parts_of_definition {n : Node} {d : Definition} (found : n.definition? = some d) :
    n.parts = d.parts := by
  cases n with
  | handler h => cases found
  | expr e => cases found
  | stmt s =>
    cases s with
    | funcDef | asyncFuncDef =>
      cases Option.some.inj found
      rfl
    | _ => cases found

/-- The parts that a walk goes on to: those of a definition only if the walk enters definitions. -/
def below (enter : Bool) (n : Node) : List Node :=
  if enter || n.definition?.isNone then n.parts else []

theorem mem_parts_of_below {enter : Bool} {m n : Node} (h : m ∈ n.below enter) : m ∈ n.parts := by
  unfold below at h
  split at h
  · exact h
  · cases h

theorem below_entering (n : Node) : n.below true = n.parts := rfl

theorem below_definition {n : Node} {d : Definition} (found : n.definition? = some d) :
    n.below false = [] := by
  simp [below, found]

theorem below_other {n : Node} (other : n.definition? = none) : n.below false = n.parts := by
  simp [below, other]

/- A part is smaller than the node it is a part of, so that walks end. Each lemma below says this
for one of the lists in which parts are kept. -/

theorem optional_size {e : Expr} {o : Option Expr} (h : e ∈ o.toList) : sizeOf e < sizeOf o := by
  cases o with
  | none => cases h
  | some x =>
    cases List.mem_singleton.mp h
    simp

theorem clauses_size {e : Expr} {clauses : List Clause} (h : e ∈ clauses.flatMap Clause.parts) :
    sizeOf e < sizeOf clauses := by
  obtain ⟨⟨isAsync, target, source, filters⟩, hc, he⟩ := List.mem_flatMap.mp h
  have outer := List.sizeOf_lt_of_mem hc
  simp only [Clause.mk.sizeOf_spec] at outer
  simp only [Clause.parts, List.mem_cons] at he
  rcases he with rfl | rfl | he
  · omega
  · omega
  · have inner := List.sizeOf_lt_of_mem he
    omega

theorem keywords_size {e : Expr} {keywords : List Keyword} (h : e ∈ keywords.map Keyword.value) :
    sizeOf e < sizeOf keywords := by
  obtain ⟨⟨name, value⟩, hk, rfl⟩ := List.mem_map.mp h
  have outer := List.sizeOf_lt_of_mem hk
  simp only [Keyword.mk.sizeOf_spec] at outer
  simp only [Keyword.value]
  omega

theorem defaultsOf_size {e : Expr} {role : ParamRole} {params : List Param}
    (h : e ∈ defaultsOf role params) : sizeOf e < sizeOf params := by
  obtain ⟨⟨r, name, hint, fallback⟩, hp, he⟩ := List.mem_filterMap.mp h
  have outer := List.sizeOf_lt_of_mem (List.mem_filter.mp hp).1
  simp only [Param.mk.sizeOf_spec] at outer
  have inner : sizeOf fallback = 1 + sizeOf e := by
    cases he
    rfl
  omega

theorem defaults_size {e : Expr} {params : List Param} (h : e ∈ defaults params) :
    sizeOf e < sizeOf params := by
  simp only [defaults, List.mem_append] at h
  rcases h with (h | h) | h
  · exact defaultsOf_size h
  · exact defaultsOf_size h
  · exact defaultsOf_size h

theorem items_size {e : Expr} {items : List WithItem} (h : e ∈ items.flatMap WithItem.parts) :
    sizeOf e < sizeOf items := by
  obtain ⟨⟨context, target⟩, hi, he⟩ := List.mem_flatMap.mp h
  have outer := List.sizeOf_lt_of_mem hi
  simp only [WithItem.mk.sizeOf_spec] at outer
  simp only [WithItem.parts, List.mem_cons] at he
  rcases he with rfl | he
  · omega
  · have inner := optional_size he
    omega

theorem cases_size {m : Node} {cases : List MatchCase} (h : m ∈ cases.flatMap ofCase) :
    sizeOf m ≤ sizeOf cases := by
  obtain ⟨⟨pattern, guard, body⟩, hc, hm⟩ := List.mem_flatMap.mp h
  have outer := List.sizeOf_lt_of_mem hc
  simp only [MatchCase.mk.sizeOf_spec] at outer
  simp only [ofCase, List.mem_append, List.mem_map] at hm
  rcases hm with ⟨e, he, rfl⟩ | ⟨s, hs, rfl⟩
  · have inner := optional_size he
    simp only [expr.sizeOf_spec]
    omega
  · have inner := List.sizeOf_lt_of_mem hs
    simp only [stmt.sizeOf_spec]
    omega

theorem expr_part_size {e p : Expr} (h : p ∈ e.parts) : sizeOf p < sizeOf e := by
  have list : ∀ {es : List Expr}, p ∈ es → sizeOf p < sizeOf es := List.sizeOf_lt_of_mem
  have option := @optional_size p
  have clauses := @clauses_size p
  have keywords := @keywords_size p
  have defaults := @defaults_size p
  cases e <;>
    simp only [Expr.parts, List.mem_append, List.mem_cons, List.not_mem_nil, or_false] at h <;>
    simp <;> grind

theorem part_size {m n : Node} (h : m ∈ n.parts) : sizeOf m < sizeOf n := by
  have list : ∀ {e : Expr} {es : List Expr}, e ∈ es → sizeOf e < sizeOf es :=
    List.sizeOf_lt_of_mem
  have block : ∀ {s : Stmt} {ss : List Stmt}, s ∈ ss → sizeOf s < sizeOf ss :=
    List.sizeOf_lt_of_mem
  have handlers : ∀ {h : Handler} {hs : List Handler}, h ∈ hs → sizeOf h < sizeOf hs :=
    List.sizeOf_lt_of_mem
  have option := @optional_size
  have keywords := @keywords_size
  have defaults := @defaults_size
  have items := @items_size
  have cases := @cases_size
  cases n with
  | expr e =>
    obtain ⟨p, hp, rfl⟩ := List.mem_map.mp h
    have smaller := expr_part_size hp
    simpa using smaller
  | handler except =>
    cases except
    simp only [parts, List.mem_append] at h
    grind [stmt.sizeOf_spec, expr.sizeOf_spec, handler.sizeOf_spec, Handler.mk.sizeOf_spec]
  | stmt s =>
    cases s <;>
      simp only [parts, List.mem_append, List.mem_cons, List.not_mem_nil, or_false] at h <;>
      simp <;> grind [stmt.sizeOf_spec, expr.sizeOf_spec, handler.sizeOf_spec]

/-- What holds of a node whenever it holds of the node's parts holds of every node. -/
theorem induction {motive : Node → Prop} (step : ∀ n, (∀ m ∈ n.parts, motive m) → motive n)
    (n : Node) : motive n :=
  step n fun m _ => induction step m
termination_by sizeOf n
decreasing_by exact part_size ‹_›

/-- A node and all nodes inside it, an outer one before those in it. -/
def walk (enter : Bool) (n : Node) : List Node :=
  n :: (n.below enter).attach.flatMap fun m => m.1.walk enter
termination_by sizeOf n
decreasing_by exact part_size (mem_parts_of_below m.2)

theorem walk_eq (enter : Bool) (n : Node) :
    n.walk enter = n :: (n.below enter).flatMap (walk enter) := by
  rw [walk]
  simp

end Node

/-- The nodes whose weights make up the score of a function. -/
def Definition.scope (d : Definition) : List Node :=
  d.parts.flatMap (Node.walk false)

end BranchCount
