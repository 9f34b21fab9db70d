import BranchCount.Source.Range

/-!
Syntax trees of Python modules.

Every statement, handler and expression carries the bytes it spans. Operators, contexts and the
values of constants are left out: nothing here depends on them. The asynchronous form of a statement
is a constructor of its own, and so is a `try` with `except*`.
-/
namespace BranchCount

inductive Junction where
  | conj
  | disj
deriving Repr, DecidableEq, Inhabited

inductive Collection where
  | list
  | set
  | generator
deriving Repr, DecidableEq, Inhabited

inductive ParamRole where
  | positionalOnly
  | positional
  | rest
  | keywordOnly
  | keywordRest
deriving Repr, DecidableEq, Inhabited

mutual

inductive Expr where
  /-- Operands joined by one operator, as in `a and b and c`. -/
  | chain (range : Range) (op : Junction) (operands : List Expr)
  | named (range : Range) (target value : Expr)
  | binary (range : Range) (left right : Expr)
  | unary (range : Range) (operand : Expr)
  | lambda (range : Range) (params : List Param) (body : Expr)
  | ternary (range : Range) (test body orelse : Expr)
  /-- The keys that are written, then all values: a `**` entry has a value only. -/
  | dict (range : Range) (keys values : List Expr)
  | set (range : Range) (elements : List Expr)
  | comprehension (range : Range) (into : Collection) (element : Expr) (clauses : List Clause)
  | dictComprehension (range : Range) (key value : Expr) (clauses : List Clause)
  | await (range : Range) (value : Expr)
  | yield (range : Range) (value : Option Expr)
  | yieldFrom (range : Range) (value : Expr)
  | compare (range : Range) (left : Expr) (others : List Expr)
  | call (range : Range) (callee : Expr) (args : List Expr) (keywords : List Keyword)
  | formatted (range : Range) (value : Expr) (spec : Option Expr)
  | joined (range : Range) (parts : List Expr)
  | constant (range : Range)
  | attribute (range : Range) (value : Expr)
  | subscript (range : Range) (value index : Expr)
  | starred (range : Range) (value : Expr)
  | name (range : Range)
  | list (range : Range) (elements : List Expr)
  | tuple (range : Range) (elements : List Expr)
  | slice (range : Range) (lower upper step : Option Expr)

inductive Clause where
  | mk (isAsync : Bool) (target source : Expr) (filters : List Expr)

inductive Param where
  | mk (role : ParamRole) (name : String) (hint fallback : Option Expr)

/-- A keyword argument; one without a name is a `**` argument. -/
inductive Keyword where
  | mk (name : Option String) (value : Expr)

end

instance : Inhabited Expr := ⟨.constant default⟩

inductive Pattern where
  | value (value : Expr)
  | binding (pattern : Option Pattern) (name : Option String)
  | star (name : Option String)
  | sequence (items : List Pattern)
  | mapping (keys : List Expr) (items : List Pattern) (rest : Option String)
  | object (type : Expr) (items : List Pattern) (names : List String) (named : List Pattern)
  | either (items : List Pattern)

instance : Inhabited Pattern := ⟨.binding none none⟩

structure WithItem where
  context : Expr
  target : Option Expr

/-- Statements of one word or of names only, which hold no expression. -/
inductive Inert where
  | pass
  | leave
  | next
  | global
  | nonlocal
  | imports
deriving Repr, DecidableEq, Inhabited

mutual

inductive Stmt where
  | funcDef (range : Range) (name : String) (params : List Param) (body : List Stmt)
      (decorators : List Expr) (returns : Option Expr)
  | asyncFuncDef (range : Range) (name : String) (params : List Param) (body : List Stmt)
      (decorators : List Expr) (returns : Option Expr)
  | classDef (range : Range) (name : String) (bases : List Expr) (keywords : List Keyword)
      (body : List Stmt) (decorators : List Expr)
  | ret (range : Range) (value : Option Expr)
  | delete (range : Range) (targets : List Expr)
  | assign (range : Range) (targets : List Expr) (value : Expr)
  | typeAlias (range : Range) (name value : Expr)
  | augAssign (range : Range) (target value : Expr)
  | annAssign (range : Range) (target hint : Expr) (value : Option Expr)
  | forLoop (range : Range) (target source : Expr) (body orelse : List Stmt)
  | asyncForLoop (range : Range) (target source : Expr) (body orelse : List Stmt)
  | whileLoop (range : Range) (test : Expr) (body orelse : List Stmt)
  /-- An `elif` is a conditional that stands alone in `orelse`. -/
  | conditional (range : Range) (test : Expr) (body orelse : List Stmt)
  | withBlock (range : Range) (items : List WithItem) (body : List Stmt)
  | asyncWithBlock (range : Range) (items : List WithItem) (body : List Stmt)
  | matchOn (range : Range) (subject : Expr) (cases : List MatchCase)
  | raise (range : Range) (exception cause : Option Expr)
  | tryBlock (range : Range) (body : List Stmt) (handlers : List Handler)
      (orelse final : List Stmt)
  | tryStarBlock (range : Range) (body : List Stmt) (handlers : List Handler)
      (orelse final : List Stmt)
  | assertion (range : Range) (test : Expr) (message : Option Expr)
  | expr (range : Range) (value : Expr)
  | inert (range : Range) (form : Inert)

inductive Handler where
  | mk (range : Range) (type : Option Expr) (name : Option String) (body : List Stmt)

inductive MatchCase where
  | mk (pattern : Pattern) (guard : Option Expr) (body : List Stmt)

end

instance : Inhabited Stmt := ⟨.inert default default⟩

def Expr.range : Expr → Range
  | .chain r .. | .named r .. | .binary r .. | .unary r .. | .lambda r .. | .ternary r ..
  | .dict r .. | .set r .. | .comprehension r .. | .dictComprehension r .. | .await r ..
  | .yield r .. | .yieldFrom r .. | .compare r .. | .call r .. | .formatted r .. | .joined r ..
  | .constant r | .attribute r .. | .subscript r .. | .starred r .. | .name r | .list r ..
  | .tuple r .. | .slice r .. => r

def Stmt.range : Stmt → Range
  | .funcDef r .. | .asyncFuncDef r .. | .classDef r .. | .ret r .. | .delete r .. | .assign r ..
  | .typeAlias r .. | .augAssign r .. | .annAssign r .. | .forLoop r .. | .asyncForLoop r ..
  | .whileLoop r .. | .conditional r .. | .withBlock r .. | .asyncWithBlock r .. | .matchOn r ..
  | .raise r .. | .tryBlock r .. | .tryStarBlock r .. | .assertion r .. | .expr r ..
  | .inert r .. => r

def Pattern.isWildcard : Pattern → Bool
  | .binding none none => true
  | _ => false

/-- A `case _`, guarded or not, adds no branch. -/
def MatchCase.isCatchAll : MatchCase → Bool
  | .mk pattern _ _ => pattern.isWildcard

structure Definition where
  name : String
  range : Range
  isAsync : Bool
  params : List Param
  body : List Stmt
  decorators : List Expr

def Stmt.definition? : Stmt → Option Definition
  | .funcDef range name params body decorators _ =>
    some ⟨name, range, false, params, body, decorators⟩
  | .asyncFuncDef range name params body decorators _ =>
    some ⟨name, range, true, params, body, decorators⟩
  | _ => none

end BranchCount
