import BranchCount.Syntax
import BranchCount.Rules.Basic

/-!
Counting the decision points of one function.

A score starts at 1. Counting walks the default values of the parameters, the body and the
decorators; at each construct that counts it adds the construct's weight and notes a contribution,
and then it goes on into the parts of the construct. It does not enter definitions that are nested
in the function, since each of them has a score of its own, nor annotations of parameters and
results, type aliases or match patterns.
-/
namespace BranchCount

structure Score where
  complexity : Nat := 1
  contributions : List Contribution := []
deriving Repr, DecidableEq, Inhabited

/-- What counting depends on besides the tree: the rules, and the lines of the source text. -/
structure Counting where
  rules : RuleSet
  lines : LineTable

namespace Counting

/-- Adds a decision point, whether or not its kind is enabled. -/
def add (c : Counting) (kind : Kind) (offset amount : Nat) (description : String) (s : Score) :
    Score where
  complexity := s.complexity + amount
  contributions := s.contributions ++ [⟨kind, c.lines.line offset, amount, description⟩]

def record (c : Counting) (kind : Kind) (offset : Nat) (s : Score) : Score :=
  if c.rules.isEnabled kind then c.add kind offset 1 kind.description s else s

def addMany (c : Counting) (kind : Kind) (offset : Nat) : Nat → Score → Score
  | 0, s => s
  | n + 1, s => c.addMany kind offset n (c.add kind offset 1 kind.description s)

def operatorWord : Junction → String
  | .conj => "and"
  | .disj => "or"

/-- A chain of `n` operands has `n - 1` operators, each of which branches. -/
def recordChain (c : Counting) (op : Junction) (offset operands : Nat) (s : Score) : Score :=
  let amount := operands - 1
  if c.rules.isEnabled .boolOp && amount ≠ 0 then
    c.add .boolOp offset amount (toString amount ++ " " ++ operatorWord op ++ " operator(s)") s
  else
    s

/-- One point for each `for` clause, followed by one for each of its filters if filters count. -/
def recordClauses (c : Counting) (kind : Kind) (offset : Nat) : List Clause → Score → Score
  | [], s => s
  | .mk _ _ _ filters :: rest, s =>
    if c.rules.isEnabled kind then
      let s := c.add kind offset 1 kind.description s
      let s := if c.rules.isEnabled .filter then c.addMany .filter offset filters.length s else s
      c.recordClauses kind offset rest s
    else
      s

/-- One point for each case that is not a catch-all, at the place of the whole statement. -/
def recordCases (c : Counting) (offset : Nat) (cases : List MatchCase) (s : Score) : Score :=
  if c.rules.isEnabled .matchCase then
    c.addMany .matchCase offset (cases.countP fun case => !case.isCatchAll) s
  else
    s

def comprehensionKind : Collection → Kind
  | .list => .listComp
  | .set => .setComp
  | .generator => .genExp

mutual

def expr (c : Counting) : Expr → Score → Score
  | .chain range op operands, s => c.exprs operands (c.recordChain op range.start operands.length s)
  | .named _ target value, s => c.expr value (c.expr target s)
  | .binary _ left right, s => c.expr right (c.expr left s)
  | .unary _ operand, s => c.expr operand s
  | .lambda _ params body, s =>
    c.expr body
      (c.params .keywordOnly params
        (c.params .positional params (c.params .positionalOnly params s)))
  | .ternary range test body orelse, s =>
    c.expr orelse (c.expr body (c.expr test (c.record .ternary range.start s)))
  | .dict _ keys values, s => c.exprs values (c.exprs keys s)
  | .set _ elements, s => c.exprs elements s
  | .comprehension range into element clauses, s =>
    c.clauses clauses
      (c.expr element (c.recordClauses (comprehensionKind into) range.start clauses s))
  | .dictComprehension range key value clauses, s =>
    c.clauses clauses
      (c.expr value (c.expr key (c.recordClauses .dictComp range.start clauses s)))
  | .await _ value, s => c.expr value s
  | .yield _ value, s => c.optional value s
  | .yieldFrom _ value, s => c.expr value s
  | .compare _ left others, s => c.exprs others (c.expr left s)
  | .call _ callee args keywords, s => c.keywords keywords (c.exprs args (c.expr callee s))
  | .formatted _ value spec, s => c.optional spec (c.expr value s)
  | .joined _ parts, s => c.exprs parts s
  | .constant _, s => s
  | .attribute _ value, s => c.expr value s
  | .subscript _ value index, s => c.expr index (c.expr value s)
  | .starred _ value, s => c.expr value s
  | .name _, s => s
  | .list _ elements, s => c.exprs elements s
  | .tuple _ elements, s => c.exprs elements s
  | .slice _ lower upper step, s => c.optional step (c.optional upper (c.optional lower s))

def exprs (c : Counting) : List Expr → Score → Score
  | [], s => s
  | e :: rest, s => c.exprs rest (c.expr e s)

def optional (c : Counting) : Option Expr → Score → Score
  | none, s => s
  | some e, s => c.expr e s

def clauses (c : Counting) : List Clause → Score → Score
  | [], s => s
  | .mk _ target source filters :: rest, s =>
    c.clauses rest (c.exprs filters (c.expr source (c.expr target s)))

/-- The default values of the parameters in one role; nothing else of parameters counts. -/
def params (c : Counting) (wanted : ParamRole) : List Param → Score → Score
  | [], s => s
  | .mk role _ _ fallback :: rest, s =>
    c.params wanted rest (if role = wanted then c.optional fallback s else s)

def keywords (c : Counting) : List Keyword → Score → Score
  | [], s => s
  | .mk _ value :: rest, s => c.keywords rest (c.expr value s)

end

def withItems (c : Counting) : List WithItem → Score → Score
  | [], s => s
  | item :: rest, s => c.withItems rest (c.optional item.target (c.expr item.context s))

mutual

def stmt (c : Counting) : Stmt → Score → Score
  | .funcDef .., s | .asyncFuncDef .., s => s
  | .classDef _ _ bases keywords body decorators, s =>
    c.exprs decorators (c.body body (c.keywords keywords (c.exprs bases s)))
  | .ret _ value, s => c.optional value s
  | .delete _ targets, s => c.exprs targets s
  | .assign _ targets value, s => c.expr value (c.exprs targets s)
  | .typeAlias .., s => s
  | .augAssign _ target value, s => c.expr value (c.expr target s)
  | .annAssign _ target hint value, s =>
    c.optional value (c.expr hint (c.expr target s))
  | .forLoop range target source body orelse, s =>
    c.body orelse (c.body body (c.expr source (c.expr target (c.record .forLoop range.start s))))
  | .asyncForLoop range target source body orelse, s =>
    c.body orelse (c.body body (c.expr source (c.expr target (c.record .forLoop range.start s))))
  | .whileLoop range test body orelse, s =>
    c.body orelse (c.body body (c.expr test (c.record .whileLoop range.start s)))
  | .conditional range test body orelse, s =>
    c.body orelse (c.body body (c.expr test (c.record .conditional range.start s)))
  | .withBlock range items body, s =>
    c.body body (c.withItems items (c.record .withBlock range.start s))
  | .asyncWithBlock range items body, s =>
    c.body body (c.withItems items (c.record .withBlock range.start s))
  | .matchOn range subject cases, s =>
    c.cases cases (c.expr subject (c.recordCases range.start cases s))
  | .raise _ exception cause, s => c.optional cause (c.optional exception s)
  | .tryBlock _ body handlers orelse final, s =>
    c.body final (c.body orelse (c.handlers handlers (c.body body s)))
  | .tryStarBlock _ body handlers orelse final, s =>
    c.body final (c.body orelse (c.handlers handlers (c.body body s)))
  | .assertion range test message, s =>
    c.optional message (c.expr test (c.record .assertion range.start s))
  | .expr _ value, s => c.expr value s
  | .inert .., s => s

def body (c : Counting) : List Stmt → Score → Score
  | [], s => s
  | stmt :: rest, s => c.body rest (c.stmt stmt s)

def handlers (c : Counting) : List Handler → Score → Score
  | [], s => s
  | .mk range type _ body :: rest, s =>
    c.handlers rest (c.body body (c.optional type (c.record .handler range.start s)))

def cases (c : Counting) : List MatchCase → Score → Score
  | [], s => s
  | .mk _ guard body :: rest, s => c.cases rest (c.body body (c.optional guard s))

end

/-- The default values that parameters can have: a parameter that takes all remaining arguments
has none. -/
def defaults (c : Counting) (params : List Param) (s : Score) : Score :=
  c.params .keywordOnly params (c.params .positional params (c.params .positionalOnly params s))

def definition (c : Counting) (d : Definition) : Score :=
  c.exprs d.decorators (c.body d.body (c.defaults d.params {}))

end Counting

end BranchCount
