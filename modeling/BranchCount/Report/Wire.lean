import BranchCount.Codec.Record
import BranchCount.Report.Sink

/-!
The report for editors: one line with one JSON object.
-/
namespace BranchCount.Report

open Output

def jsonLine (v : Json) : Output Unit := do
  forM v.pieces print
  line ""
  flush

def wire (result : AnalysisResult) : Output Unit :=
  jsonLine result.toJson

end BranchCount.Report
