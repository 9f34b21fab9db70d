import BranchCount.Analysis.Source
import BranchCount.Comparison
import BranchCount.Rules.Resolution

/-!
Analysis of files: under given rules, under the rules that apply to the file, and under all presets.
-/
namespace BranchCount

def AcquireError.ofFileError (path : String) : FileError → AcquireError
  | .notFound => .fileNotFound path
  | e => .unreadable e.message

namespace FileSystem

def readSource (fs : FileSystem) (path : String) : Except AcquireError String :=
  (fs.readText path.toList).mapError (AcquireError.ofFileError path)

def parseFile (fs : FileSystem) (parse : ModuleParser) (path : String) :
    Except AcquireError ParsedModule := do
  ParsedModule.ofText parse (← fs.readSource path)

def analyzeFile (fs : FileSystem) (parse : ModuleParser) (path : String) (rules : RuleSet) :
    Logged AnalysisResult :=
  match fs.parseFile parse path with
  | .ok m => do
    let found := m.discover rules
    found.nestings.forM fun n => Logged.note .trace .discovery n.message
    Logged.note .debug .analysis
      ("Analyzed " ++ path ++ ": " ++ toString found.records.length ++ " functions")
    return .success (m.analyze rules)
  | .error e => do
    Logged.note .debug .analysis ("Analysis of " ++ path ++ " failed: " ++ e.message)
    return .failure e.toFailure

def analyzePath (fs : FileSystem) (parse : ModuleParser) (path : String) (choice : PresetChoice) :
    Logged AnalysisResult := do
  let rules ← fs.resolveRules path choice
  fs.analyzeFile parse path rules

def analyzeUnder (fs : FileSystem) (parse : ModuleParser) (path : String) (preset : Preset) :
    Logged AnalysisResult := do
  Logged.note .debug .comparison ("Comparing " ++ path ++ " under " ++ preset.name)
  fs.analyzeFile parse path preset.rules

/-- The scores of a file's functions under the three presets. A failure is that of the first preset
under which there is one. -/
def comparePresets (fs : FileSystem) (parse : ModuleParser) (path : String) :
    Logged (Except Failure PresetComparison) := do
  let strict ← fs.analyzeUnder parse path .strict
  let standard ← fs.analyzeUnder parse path .standard
  let comprehensive ← fs.analyzeUnder parse path .comprehensive
  match strict, standard, comprehensive with
  | .success a, .success b, .success c =>
    return .ok
      { path
        rows := comparisonRows a.functions b.functions c.functions
        average := averageComplexity b.functions
        distribution := Distribution.ofFunctions b.functions }
  | .failure f, _, _ | _, .failure f, _ | _, _, .failure f => return .error f

end FileSystem

end BranchCount
