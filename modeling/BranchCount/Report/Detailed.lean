import BranchCount.Analysis.Result
import BranchCount.Decimal.Fixed
import BranchCount.Report.Layout
import BranchCount.Report.Sink
import BranchCount.Report.Style

/-!
The report for people: every function with the decision points that make up its score.
-/
namespace BranchCount.Report

open Output

def detailedWidth : Nat := 70

def detailedHeader (style : Style) (path : String) (configUsed : Option String) : Output Unit := do
  line ""
  line (Layout.rule detailedWidth)
  line (style.header ("Complexity Analysis: " ++ path))
  if let some name := configUsed then
    line ("Method: " ++ name)
  line (Layout.rule detailedWidth)
  line ""

/-- A score in the colour of its range. -/
def scoreText (style : Style) (complexity : Nat) : String :=
  let text := toString complexity
  if 20 < complexity then style.error text
  else if highThreshold < complexity then style.warning text
  else style.success text

def functionText (style : Style) (f : FunctionRecord) : String :=
  style.bold f.displayName ++ " (Line " ++ toString f.line ++ ") - Complexity: " ++
    scoreText style f.complexity

def contributionText (c : Contribution) : String :=
  "  Line " ++ Layout.padLeft 4 (toString c.line) ++ ": +" ++ toString c.amount ++ " (" ++
    c.description ++ ")"

def detailedFunction (style : Style) (f : FunctionRecord) : Output Unit := do
  line (functionText style f)
  if f.contributions.isEmpty then
    return
  line ("  " ++ style.dim "Base complexity: 1")
  forM f.contributions fun c => line (contributionText c)
  line ""

def detailedFooter (style : Style) (file : FileComplexity) : Output Unit := do
  line (Layout.rule detailedWidth)
  line ("Total functions: " ++ toString file.functions.length)
  if file.functions.isEmpty then
    return
  line ("Average complexity: " ++ Decimal.fixed 2 (averageComplexity file.functions))
  let high := countComplex highThreshold file.functions
  if 0 < high then
    line (style.emoji "⚠️ " "[WARN]" ++ " " ++
      style.warning ("High complexity functions (>" ++ toString highThreshold ++ "): " ++
        toString high))

def detailed (style : Style) (path : String) (result : AnalysisResult) : Output Unit := do
  match result with
  | .success file =>
    detailedHeader style path (some file.configUsed)
    forM file.functions (detailedFunction style)
    detailedFooter style file
  | .failure failure =>
    detailedHeader style path none
    line (style.emoji "❌" "[FAIL]" ++ " " ++ style.error ("Error: " ++ failure.error))
  flush

end BranchCount.Report
