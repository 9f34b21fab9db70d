import BranchCount.Program.Reports
import BranchCount.Proofs.Comparison
import BranchCount.Proofs.WireLine

/-!
A failure is reported in one way. It comes from the text of the file alone, before any rule is
looked at, and every command writes the same line about it, whatever the settings.
-/
namespace BranchCount

open Json (Holds)

/- Only syntax errors have a line. -/

theorem AcquireError.toFailure_line (e : AcquireError) :
    e.toFailure.errorType = .badSyntax ↔ ∃ n, e.toFailure.line = some n := by
  cases e with
  | fileNotFound path => simp [toFailure, errorType, line?]
  | badSyntax message line column => simp [toFailure, errorType, line?]
  | unreadable message => simp [toFailure, errorType, line?]
  | unknown message => simp [toFailure, errorType, line?]

/-- A text that is one line of JSON about a failure: it lists no functions, and has a line number if
and only if the failure is a syntax error. -/
structure FailureLine (failure : Failure) (text : String) : Prop where
  framed : ∃ body, text.toUTF8.toList = body ++ [10] ∧ ∀ b ∈ body, 0x20 ≤ b.toNat
  object : ∃ members, (∀ v, Holds text v ↔ v = .object members) ∧
    (∀ v, ("functions", v) ∈ members ↔ v = .list []) ∧
    (∀ v, ("line", v) ∈ members ↔
      ∃ n, failure.line = some n ∧ v = .number (Nat.toDigits 10 n))
  numbered : failure.errorType = .badSyntax ↔ ∃ n, failure.line = some n

theorem AcquireError.failureLine (e : AcquireError) :
    FailureLine e.toFailure (wireText (.failure e.toFailure)) where
  framed := wireText_framed _
  object := by
    obtain ⟨members, records, holds, announces⟩ := wireText_object (.failure e.toFailure)
    have none : records = [] := List.length_eq_zero_iff.mp announces.length
    refine ⟨members, holds, fun v => none ▸ announces.functions v, fun v => ?_⟩
    rw [announces.line]
    constructor
    · rintro ⟨f, n, same, line, rfl⟩
      cases same
      exact ⟨n, line, rfl⟩
    · rintro ⟨n, line, rfl⟩
      exact ⟨_, n, rfl, line, rfl⟩
  numbered := e.toFailure_line

namespace FileSystem

/- What a command does with a file that cannot be analyzed. -/

theorem analyzePath_value (fs : FileSystem) (parse : ModuleParser) (path : String)
    (choice : PresetChoice) :
    (fs.analyzePath parse path choice).value =
      match fs.parseFile parse path with
      | .ok m => .success (m.analyze (fs.resolveRules path choice).value)
      | .error e => .failure e.toFailure := by
  rw [analyzePath, Logged.bind_value]
  exact analyzeFile_value fs parse path _

theorem analyzePath_failure {fs : FileSystem} {parse : ModuleParser} {path : String}
    {choice : PresetChoice} {failure : Failure}
    (failed : (fs.analyzePath parse path choice).value = .failure failure) :
    ∃ e, fs.parseFile parse path = .error e ∧ e.toFailure = failure := by
  rw [analyzePath_value] at failed
  cases parsed : fs.parseFile parse path with
  | ok m =>
    rw [parsed] at failed
    cases failed
  | error e =>
    rw [parsed] at failed
    cases failed
    exact ⟨e, rfl, rfl⟩

theorem reportAnalysis_failure {fs : FileSystem} {parse : ModuleParser} {path : String}
    {e : AcquireError} (parsed : fs.parseFile parse path = .error e) (details : Bool)
    (choice : PresetChoice) (style : Style) (sink : Sink) :
    (fs.reportAnalysis parse path details choice style sink).value =
      (sink.write (Report.wire (.failure e.toFailure))).map
        fun text => (.failure e.toFailure, text) := by
  have result : (fs.analyzePath parse path choice).value = .failure e.toFailure := by
    rw [analyzePath_value, parsed]
  have wire : ReportForm.forResult details (.failure e.toFailure) = .wire := by
    simp [ReportForm.forResult, AnalysisResult.isSuccess]
  simp only [reportAnalysis, analysisReport, Logged.bind_value, Logged.pure_value, result, wire,
    ReportForm.write]

theorem reportComparison_failure {fs : FileSystem} {parse : ModuleParser} {path : String}
    {e : AcquireError} (parsed : fs.parseFile parse path = .error e) (style : Style) (sink : Sink) :
    (fs.reportComparison parse path style sink).value =
      sink.write (Report.wire (.failure e.toFailure)) := by
  have compared : (fs.comparePresets parse path).value = .error e.toFailure := by
    rw [comparePresets_value, parsed]
  simp only [reportComparison, comparisonReport, Logged.bind_value, Logged.pure_value, compared]

/-- Two runs that find the same text under a path fail alike, if they fail: neither the presets
asked for nor any override file matters. Then the report and the comparison are the same line. -/
theorem failures_reported_alike (fs other : FileSystem) (parse : ModuleParser) (path : String)
    (same : other.readText path.toList = fs.readText path.toList) (choice choice' : PresetChoice) :
    (other.analyzePath parse path choice').value.failure? =
      (fs.analyzePath parse path choice).value.failure? ∧
    ∀ failure, (fs.analyzePath parse path choice).value = .failure failure →
      (∀ details style, (other.reportAnalysis parse path details choice' style {}).value =
        .ok (.failure failure, wireText (.failure failure))) ∧
      (∀ style, (other.reportComparison parse path style {}).value =
        .ok (wireText (.failure failure))) ∧
      FailureLine failure (wireText (.failure failure)) := by
  have agree := parseFile_agree parse same
  constructor
  · rw [analyzePath_value, analyzePath_value, agree]
    cases fs.parseFile parse path with
    | ok m => rfl
    | error e => rfl
  · intro failure failed
    obtain ⟨e, parsed, rfl⟩ := analyzePath_failure failed
    rw [← agree] at parsed
    refine ⟨fun details style => ?_, fun style => ?_, e.failureLine⟩
    · rw [reportAnalysis_failure parsed, write_wire]
      rfl
    · rw [reportComparison_failure parsed, write_wire]

/-- A syntax error, beside an override file that only one of the runs finds and cannot load. -/
theorem failures_reported_alike_syntax :
    let text := "def f():\n    return (\n".toUTF8
    let fs := (empty ["r".toList]).writeFile "m.py".toList text
    let other := fs.writeFile ".complexity.json".toList "[".toUTF8
    ∃ failure, (fs.analyzePath parseModule "m.py" ⟨some "strict", none⟩).value = .failure failure ∧
      failure.errorType = .badSyntax ∧
      (other.reportAnalysis parseModule "m.py" true ⟨none, some "comprehensive"⟩ ⟨true⟩ {}).value =
        .ok (.failure failure, wireText (.failure failure)) ∧
      (other.reportComparison parseModule "m.py" ⟨false⟩ {}).value =
        .ok (wireText (.failure failure)) := by
  intro text fs other
  have file : fs.fileAt? "m.py".toList = some (.bytes text) := by decide +kernel
  have unchanged : other.fileAt? "m.py".toList = some (.bytes text) := by decide +kernel
  have same : other.readText "m.py".toList = fs.readText "m.py".toList := by
    rw [readText_of_file file, readText_of_file unchanged]
  have kind : (fs.analyzePath parseModule "m.py" ⟨some "strict", none⟩).value.failure?.map
      (·.errorType) = some .badSyntax := by
    decide +kernel
  cases failed : (fs.analyzePath parseModule "m.py" ⟨some "strict", none⟩).value with
  | success file => simp [failed, AnalysisResult.failure?] at kind
  | failure failure =>
    have reported := (failures_reported_alike fs other parseModule "m.py" same ⟨some "strict", none⟩
      ⟨none, some "comprehensive"⟩).2 failure failed
    refine ⟨failure, rfl, ?_, reported.1 true ⟨true⟩, reported.2.1 ⟨false⟩⟩
    simpa [failed, AnalysisResult.failure?] using kind

end FileSystem

end BranchCount
