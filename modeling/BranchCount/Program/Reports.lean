import BranchCount.Analysis.File
import BranchCount.Report.Detailed
import BranchCount.Report.SideBySide
import BranchCount.Report.Sink
import BranchCount.Report.Wire

/-!
What the program reports on a file. A file that cannot be analyzed is reported as such; that is no
failure to report.
-/
namespace BranchCount

inductive ReportForm where
  | wire
  | detailed
deriving Repr, DecidableEq, Inhabited

namespace ReportForm

def name : ReportForm → String
  | wire => "json"
  | detailed => "detailed"

/-- Details are there for a success only. -/
def forResult (details : Bool) (result : AnalysisResult) : ReportForm :=
  if details && result.isSuccess then detailed else wire

def write (form : ReportForm) (style : Style) (path : String) (result : AnalysisResult) :
    Output Unit :=
  match form with
  | wire => Report.wire result
  | detailed => Report.detailed style path result

end ReportForm

namespace FileSystem

/-- Analyzes a file and gives the result and the program that reports it. -/
def analysisReport (fs : FileSystem) (parse : ModuleParser) (path : String) (details : Bool)
    (choice : PresetChoice) (style : Style) : Logged (AnalysisResult × Output Unit) := do
  let result ← fs.analyzePath parse path choice
  return (result, (ReportForm.forResult details result).write style path result)

def reportAnalysis (fs : FileSystem) (parse : ModuleParser) (path : String) (details : Bool)
    (choice : PresetChoice) (style : Style) (sink : Sink) :
    Logged (Except WriteError (AnalysisResult × String)) := do
  let (result, report) ← fs.analysisReport parse path details choice style
  return (sink.write report).map fun text => (result, text)

def comparisonReport (fs : FileSystem) (parse : ModuleParser) (path : String) (style : Style) :
    Logged (Output Unit) := do
  match ← fs.comparePresets parse path with
  | .ok comparison => return Report.sideBySide style comparison
  | .error failure => return Report.wire (.failure failure)

def reportComparison (fs : FileSystem) (parse : ModuleParser) (path : String) (style : Style)
    (sink : Sink) : Logged (Except WriteError String) := do
  return sink.write (← fs.comparisonReport parse path style)

end FileSystem

end BranchCount
