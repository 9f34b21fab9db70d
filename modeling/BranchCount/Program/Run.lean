import BranchCount.Program.CommandLine
import BranchCount.Program.Reports

/-!
The program as a function of its arguments, its environment and the files there are.
-/
namespace BranchCount

structure Environment where
  preset : Option String := none
  colors : ColorVars := {}
  logFilter : Option String := none
  logStyle : Option String := none
deriving Repr, DecidableEq, Inhabited

structure Outcome where
  exitCode : Nat
  stdout : String := ""
  stderr : String := ""
deriving Repr, DecidableEq, Inhabited

namespace Program

def usage : String :=
  "pyclomatic <file.py> [--details] [--preset=<name>]"

def versionText : String :=
  "pyclomatic 0.2.0\n"

def helpText : String :=
  "Cyclomatic complexity for Python functions\n\n" ++
  "Usage: pyclomatic [OPTIONS] [PATH]\n\n" ++
  "Arguments:\n" ++
  "  [PATH]  Python file to analyze\n\n" ++
  "Options:\n" ++
  "  -d, --details          Print a human-readable report instead of JSON\n" ++
  "      --preset <PRESET>  Counting preset: strict, standard (default) or comprehensive\n" ++
  "      --compare          Score every function under all three presets side by side\n" ++
  "      --plain            Plain output: no colors or emoji\n" ++
  "  -h, --help             Print help\n" ++
  "  -V, --version          Print version\n"

def missingPath : Json :=
  .obj [("error", .str "No file path provided"), ("success", .bool false), ("usage", .str usage)]

def isGiven (value : Option String) : Bool :=
  value.getD "" ≠ ""

/-- Log records have colours if that is asked for; left to itself the log follows the variables
about colour, since it does not go to a terminal. -/
def colorsLog (env : Environment) : Bool :=
  match env.logStyle with
  | some "always" => true
  | some "never" => false
  | _ => !isGiven env.colors.noColor && isGiven env.colors.colorForce

def logText (env : Environment) (records : List LogRecord) : String :=
  let filter := (env.logFilter.map LogFilter.parse).getD .standard
  String.join ((records.filter filter.shows).map (LogRecord.line (colorsLog env)))

def style (line : CommandLine) (env : Environment) : Style :=
  .ofMode (if line.plain then .never else .ofVars env.colors)

def report (fs : FileSystem) (env : Environment) (line : CommandLine) (path : String) :
    Logged (Output Unit) :=
  if line.compare then fs.comparisonReport parseModule path (style line env)
  else do
    let choice := ⟨line.preset, line.envPreset⟩
    return (← fs.analysisReport parseModule path line.details choice (style line env)).2

/-- What a program writes to standard output, where there is always room. -/
def printed (report : Output Unit) : String :=
  (({} : Sink).run report {}).2.text

def run (fs : FileSystem) (env : Environment) (args : List String) : Outcome :=
  match CommandLine.parse args env.preset with
  | .error .help => { exitCode := 0, stdout := helpText }
  | .error .version => { exitCode := 0, stdout := versionText }
  | .error refusal => { exitCode := refusal.exitCode }
  | .ok line =>
    match line.path with
    | none => { exitCode := 1, stdout := printed (Report.jsonLine missingPath) }
    | some path =>
      let outcome := report fs env line path
      { exitCode := 0
        stdout := printed outcome.value
        stderr := logText env outcome.records }

end Program

end BranchCount
