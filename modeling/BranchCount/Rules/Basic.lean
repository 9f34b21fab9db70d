import BranchCount.Contribution

/-!
Rule sets: which constructs count.

A rule set switches each of eleven flags on or off and has a name and a description. An override
gives some of these and leaves the others open; laid over a rule set it changes what it gives.
-/
namespace BranchCount

inductive Flag where
  | conditional
  | whileLoop
  | forLoop
  | handler
  | assertion
  | boolOp
  | ternary
  | comprehension
  | filter
  | matchCase
  | withBlock
deriving Repr, DecidableEq, Inhabited

namespace Flag

def all : List Flag :=
  [conditional, whileLoop, forLoop, handler, assertion, boolOp, ternary, comprehension, filter,
    matchCase, withBlock]

def key : Flag → String
  | conditional => "countIf"
  | whileLoop => "countWhile"
  | forLoop => "countFor"
  | handler => "countExcept"
  | assertion => "countAssert"
  | boolOp => "countBoolOp"
  | ternary => "countTernary"
  | comprehension => "countComprehension"
  | filter => "countComprehensionIf"
  | matchCase => "countMatch"
  | withBlock => "countWith"

/-- The second spelling of the key, which an override may use. -/
def dashedKey : Flag → String
  | conditional => "count-if"
  | whileLoop => "count-while"
  | forLoop => "count-for"
  | handler => "count-except"
  | assertion => "count-assert"
  | boolOp => "count-bool-op"
  | ternary => "count-ternary"
  | comprehension => "count-comprehension"
  | filter => "count-comprehension-if"
  | matchCase => "count-match"
  | withBlock => "count-with"

end Flag

structure RuleSet where
  name : String
  description : String
  counts : Flag → Bool

namespace RuleSet

/-- Whether contributions of a kind are recorded. Filters count only while comprehensions do. -/
def isEnabled (rules : RuleSet) : Kind → Bool
  | .conditional => rules.counts .conditional
  | .whileLoop => rules.counts .whileLoop
  | .forLoop => rules.counts .forLoop
  | .handler => rules.counts .handler
  | .assertion => rules.counts .assertion
  | .withBlock => rules.counts .withBlock
  | .ternary => rules.counts .ternary
  | .boolOp => rules.counts .boolOp
  | .listComp | .setComp | .dictComp | .genExp => rules.counts .comprehension
  | .filter => rules.counts .comprehension && rules.counts .filter
  | .matchCase => rules.counts .matchCase

def enabledCount (rules : RuleSet) : Nat :=
  Flag.all.countP rules.counts

def enabledKinds (rules : RuleSet) : List Kind :=
  Kind.all.filter rules.isEnabled

end RuleSet

/-- Values that replace those of a rule set; `none` keeps the value there. -/
structure RuleOverride where
  name : Option String := none
  description : Option String := none
  counts : Flag → Option Bool := fun _ => none

namespace RuleOverride

def isEmpty (o : RuleOverride) : Bool :=
  o.name.isNone && o.description.isNone && Flag.all.all fun flag => (o.counts flag).isNone

end RuleOverride

def RuleSet.apply (rules : RuleSet) (o : RuleOverride) : RuleSet where
  name := o.name.getD rules.name
  description := o.description.getD rules.description
  counts flag := (o.counts flag).getD (rules.counts flag)

end BranchCount
