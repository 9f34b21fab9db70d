import BranchCount.Metrics
import BranchCount.Rules.Preset

/-!
The scores of a file's functions under the three presets, side by side.
-/
namespace BranchCount

structure ComparisonRow where
  name : String
  line : Nat
  strict : Nat
  standard : Nat
  comprehensive : Nat
  breakdown : List (String × Nat)
deriving Repr, DecidableEq, Inhabited

structure PresetComparison where
  path : String
  rows : List ComparisonRow
  average : Float
  distribution : Distribution
deriving Inhabited

def breakdownGroups : List (String × (Kind → Bool)) :=
  [("if/elif", fun k => k = .conditional),
    ("loops", Kind.isLoop),
    ("and/or", fun k => k = .boolOp),
    ("comprehensions", fun k => k.isComprehension || k = .filter),
    ("match", fun k => k = .matchCase)]

def groupAmount (f : FunctionRecord) (group : Kind → Bool) : Nat :=
  total ((Kind.all.filter group).map f.amountFor)

/-- The groups that add to a function's score, with what they add. -/
def breakdown (f : FunctionRecord) : List (String × Nat) :=
  (breakdownGroups.map fun (label, group) => (label, groupAmount f group)).filter (0 < ·.2)

/-- One row for each three records in the same place of three lists. -/
def comparisonRows : (strict standard comprehensive : List FunctionRecord) → List ComparisonRow
  | a :: as, b :: bs, c :: cs =>
    { name := b.displayName
      line := b.line
      strict := a.complexity
      standard := b.complexity
      comprehensive := c.complexity
      breakdown := breakdown b } :: comparisonRows as bs cs
  | _, _, _ => []

def scoreNote (complexity : Nat) : String :=
  if 20 < complexity then "Very High"
  else if 15 < complexity then "High"
  else ""

end BranchCount
