import BranchCount.Contribution

/-!
Figures about the functions of a file: the average score, how many are complex, and how many fall
into each of four ranges.
-/
namespace BranchCount

/-- Functions that score more than this are pointed out in reports. -/
def highThreshold : Nat := 15

def averageComplexity (functions : List FunctionRecord) : Float :=
  if functions.isEmpty then 0.0
  else Float.ofNat (total (functions.map (·.complexity))) / Float.ofNat functions.length

def countComplex (threshold : Nat) (functions : List FunctionRecord) : Nat :=
  functions.countP (·.isComplex threshold)

/-- How many functions are in each range: up to 10, 11 to 15, 16 to 20, and above 20. -/
structure Distribution where
  low : Nat := 0
  medium : Nat := 0
  high : Nat := 0
  veryHigh : Nat := 0
deriving Repr, DecidableEq, Inhabited

namespace Distribution

def add (d : Distribution) (complexity : Nat) : Distribution :=
  if complexity ≤ 10 then { d with low := d.low + 1 }
  else if complexity ≤ 15 then { d with medium := d.medium + 1 }
  else if complexity ≤ 20 then { d with high := d.high + 1 }
  else { d with veryHigh := d.veryHigh + 1 }

def ofFunctions (functions : List FunctionRecord) : Distribution :=
  functions.foldl (fun d f => d.add f.complexity) {}

def total (d : Distribution) : Nat :=
  d.low + d.medium + d.high + d.veryHigh

end Distribution

end BranchCount
