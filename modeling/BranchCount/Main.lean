import BranchCount.Program.Run

/-!
The program itself: the part of the file system that a run looks at is read first, and the rest is a
function of it.
-/
namespace BranchCount.Main

def permissionDenied : String := "Permission denied (os error 13)"

def refusal : IO.Error → String
  | .permissionDenied .. => permissionDenied
  | e => toString e

/-- What is at a place. A directory has itself as an entry, which shows if it can be entered. -/
def entryAt (place : List (List Char)) : IO (Option Entry) := do
  let path := (← IO.currentDir) / String.ofList (place.foldl Path.push ['/'])
  try
    return some (.file (.bytes (← IO.FS.readBinFile path)))
  catch e =>
    if ← path.isDir then
      return some (if ← (path / ".").isDir then .directory else .closed permissionDenied)
    else if ← path.pathExists then
      return some (.file (.refused (refusal e)))
    else
      return none

def placesAlong (place : List (List Char)) : List (List Char) → List (List (List Char))
  | [] => [place]
  | segment :: rest => place :: placesAlong (FileSystem.follow place segment) rest

def lookAlong (current : List (List Char)) (paths : List (List Char)) : IO FileSystem := do
  let base := FileSystem.empty current
  let places := paths.flatMap fun path => placesAlong (base.startOf path) (Path.segments path)
  let found ← places.eraseDups.filterMapM fun place => do
    return (← entryAt place).map fun entry => (place, entry)
  return { base with entry? := fun place => found.lookup place }

def environment : IO Environment := do
  let colors : ColorVars :=
    { noColor := ← IO.getEnv "NO_COLOR"
      color := ← IO.getEnv "CLICOLOR"
      colorForce := ← IO.getEnv "CLICOLOR_FORCE"
      term := ← IO.getEnv "TERM" }
  return {
    preset := ← IO.getEnv presetVariable
    colors
    logFilter := ← IO.getEnv "RUST_LOG"
    logStyle := ← IO.getEnv "RUST_LOG_STYLE" }

/-- The paths that a run with the given arguments may look at. -/
def pathsOf (current : List (List Char)) (args : List String) : List (List Char) :=
  match CommandLine.parse args none with
  | .ok { path := some path, .. } =>
    path.toList :: (FileSystem.empty current).overridePaths path.toList
  | _ => []

def run (args : List String) : IO UInt32 := do
  let current := ((← IO.currentDir).toString.splitOn "/").filterMap fun name =>
    if name.isEmpty then none else some name.toList
  let fs ← lookAlong current (pathsOf current args)
  let outcome := Program.run fs (← environment) args
  IO.eprint outcome.stderr
  IO.print outcome.stdout
  return UInt32.ofNat outcome.exitCode

end BranchCount.Main

def main (args : List String) : IO UInt32 :=
  BranchCount.Main.run args
