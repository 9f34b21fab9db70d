import BranchCount.Codec.Rules
import BranchCount.Files.Tree
import BranchCount.Log

/-!
The rules that apply to a file.

They start from a preset. The nearest override file in the file's directory or above it is laid over
it, and a preset from the environment replaces all of that. The search stops at the first override
file, and one that cannot be loaded counts as none.
-/
namespace BranchCount

def overrideFileName : String := ".complexity.json"

def presetVariable : String := "COMPLEXITY_PRESET"

structure PresetChoice where
  preset : Option String := none
  envPreset : Option String := none
deriving Repr, DecidableEq, Inhabited

namespace PresetChoice

def withPreset (c : PresetChoice) (name : String) : PresetChoice :=
  { c with preset := some name }

def withEnvPreset (c : PresetChoice) (name : String) : PresetChoice :=
  { c with envPreset := some name }

/-- The preset to start from; a name that no preset has stands for the standard one. -/
def base (c : PresetChoice) : Preset :=
  (c.preset.bind Preset.parse?).getD .standard

end PresetChoice

inductive OverrideError where
  | unreadable (e : FileError)
  | malformed (e : Json.Refusal)

def OverrideError.message : OverrideError → String
  | unreadable e => e.message
  | malformed e => e.message

namespace FileSystem

def readOverride (fs : FileSystem) (path : List Char) : Except OverrideError RuleOverride :=
  match fs.readText path with
  | .error e => .error (.unreadable e)
  | .ok contents =>
    match RuleOverride.parse contents with
    | .error e => .error (.malformed e)
    | .ok o => .ok o

/-- Loads an override file; one that cannot be loaded is warned about. -/
def loadOverride (fs : FileSystem) (path : List Char) : Logged (Option RuleOverride) :=
  match fs.readOverride path with
  | .ok o => do
    Logged.note .debug .resolution ("Loaded config from " ++ String.ofList path)
    return some o
  | .error e => do
    Logged.note .warn .resolution
      ("Failed to load " ++ String.ofList path ++ ": " ++ e.message ++ ". Using preset defaults.")
    return none

/-- Where override files for a file may be, the nearest first. -/
def overridePaths (fs : FileSystem) (path : List Char) : List (List Char) :=
  (Path.ancestors (Path.containing fs.currentPath path)).map
    fun dir => Path.push dir overrideFileName.toList

def overrideFile? (fs : FileSystem) (path : List Char) : Option (List Char) :=
  (fs.overridePaths path).find? fs.isFile

def findOverride (fs : FileSystem) (path : List Char) : Logged (Option RuleOverride) :=
  match fs.overrideFile? path with
  | none => return none
  | some found => fs.loadOverride found

def resolveRules (fs : FileSystem) (path : String) (choice : PresetChoice) : Logged RuleSet := do
  let found ← fs.findOverride path.toList
  let layered :=
    match found with
    | none => choice.base.rules
    | some o => choice.base.rules.apply o
  let rules ←
    match choice.envPreset.bind Preset.parse? with
    | none => pure layered
    | some preset => do
      Logged.note .debug .resolution (presetVariable ++ " selects preset " ++ preset.name)
      pure preset.rules
  Logged.note .debug .resolution ("Resolved rule set '" ++ rules.name ++ "' for " ++ path)
  return rules

end FileSystem

end BranchCount
