import BranchCount.Source.LineTable

/-!
Decision points and the record of a function.

A contribution is one decision point: what kind of construct it is, on which line, and how much it
adds. A function's record holds its place, its score and its contributions in the order in which
counting met them.
-/
namespace BranchCount

inductive Kind where
  | conditional
  | whileLoop
  | forLoop
  | handler
  | assertion
  | withBlock
  | ternary
  | boolOp
  | listComp
  | setComp
  | dictComp
  | genExp
  | filter
  | matchCase
deriving Repr, DecidableEq, Inhabited

namespace Kind

/-- Every kind once, in the order in which kinds are listed. -/
def all : List Kind :=
  [conditional, whileLoop, forLoop, handler, assertion, withBlock, ternary, boolOp,
    listComp, setComp, dictComp, genExp, filter, matchCase]

def name : Kind → String
  | conditional => "if"
  | whileLoop => "while"
  | forLoop => "for"
  | handler => "except"
  | assertion => "assert"
  | withBlock => "with"
  | ternary => "ternary"
  | boolOp => "bool_op"
  | listComp => "list_comp"
  | setComp => "set_comp"
  | dictComp => "dict_comp"
  | genExp => "gen_exp"
  | filter => "comp_if"
  | matchCase => "match_case"

/-- What a report says of a kind. Boolean chains say instead how many operators they have. -/
def description : Kind → String
  | conditional => "if statement"
  | whileLoop => "while loop"
  | forLoop => "for loop"
  | handler => "exception handler"
  | assertion => "assert statement"
  | withBlock => "with statement"
  | ternary => "ternary expression"
  | boolOp => "boolean operator"
  | listComp => "list comprehension"
  | setComp => "set comprehension"
  | dictComp => "dict comprehension"
  | genExp => "generator expression"
  | filter => "comprehension if"
  | matchCase => "match case"

def isComprehension : Kind → Bool
  | listComp | setComp | dictComp | genExp => true
  | _ => false

def isLoop : Kind → Bool
  | forLoop | whileLoop => true
  | _ => false

end Kind

structure Contribution where
  kind : Kind
  line : Nat
  amount : Nat
  description : String
deriving Repr, DecidableEq, Inhabited

def total : List Nat → Nat
  | [] => 0
  | n :: rest => n + total rest

structure FunctionRecord where
  name : String
  span : Span
  isAsync : Bool
  complexity : Nat
  contributions : List Contribution
deriving Repr, DecidableEq, Inhabited

namespace FunctionRecord

def line (f : FunctionRecord) : Nat :=
  f.span.line

def displayName (f : FunctionRecord) : String :=
  if f.isAsync then "async " ++ f.name else f.name

def amountFor (f : FunctionRecord) (kind : Kind) : Nat :=
  total ((f.contributions.filter (·.kind = kind)).map (·.amount))

def isComplex (f : FunctionRecord) (threshold : Nat) : Bool :=
  threshold < f.complexity

end FunctionRecord

end BranchCount
