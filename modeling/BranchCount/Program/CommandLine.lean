/-!
Reading the command line.

Arguments are read from left to right. A value is not taken until the next argument is known to be
one, so what is wrong with a value shows later than what is wrong with the spelling of the argument
behind it. Options that exclude each other are looked at when everything has been read.
-/
namespace BranchCount

structure CommandLine where
  path : Option String := none
  details : Bool := false
  preset : Option String := none
  compare : Bool := false
  envPreset : Option String := none
  plain : Bool := false
deriving Repr, DecidableEq, Inhabited

/-- Why reading ends without a request: the program explains itself, or cannot make sense of the
arguments. -/
inductive Interruption where
  | help
  | version
  | unknownArgument
  | invalidValue
  | argumentConflict
  | tooManyValues
deriving Repr, DecidableEq, Inhabited

def Interruption.exitCode : Interruption → Nat
  | .help | .version => 0
  | _ => 2

inductive Switch where
  | details
  | compare
  | plain
  | help
  | version
deriving Repr, DecidableEq, Inhabited

inductive Setting where
  | preset
  | envPreset
deriving Repr, DecidableEq, Inhabited

inductive LongOption where
  | switch (s : Switch)
  | setting (s : Setting)
deriving Repr, DecidableEq, Inhabited

def LongOption.ofName? : String → Option LongOption
  | "details" => some (.switch .details)
  | "compare" => some (.switch .compare)
  | "plain" => some (.switch .plain)
  | "help" => some (.switch .help)
  | "version" => some (.switch .version)
  | "preset" => some (.setting .preset)
  | "env-preset" => some (.setting .envPreset)
  | _ => none

def Switch.ofLetter? : Char → Option Switch
  | 'd' => some .details
  | 'h' => some .help
  | 'V' => some .version
  | _ => none

/-- A value that has been seen but not yet taken. -/
inductive Pending where
  | path (value : String)
  | setting (s : Setting) (value : Option String)
deriving Repr, DecidableEq, Inhabited

structure Reading where
  line : CommandLine := {}
  pending : Option Pending := none
  /-- Whether `--` has been read. -/
  onlyPaths : Bool := false
  hasPath : Bool := false
deriving Repr, DecidableEq, Inhabited

namespace CommandLine

def setting? (line : CommandLine) : Setting → Option String
  | .preset => line.preset
  | .envPreset => line.envPreset

def setSetting (line : CommandLine) (value : String) : Setting → CommandLine
  | .preset => { line with preset := some value }
  | .envPreset => { line with envPreset := some value }

def give (line : CommandLine) (s : Setting) (value : String) : Except Interruption CommandLine :=
  match line.setting? s with
  | some _ => .error .argumentConflict
  | none => .ok (line.setSetting value s)

def turnOn (line : CommandLine) : Switch → Except Interruption CommandLine
  | .details => if line.details then .error .argumentConflict else .ok { line with details := true }
  | .compare => if line.compare then .error .argumentConflict else .ok { line with compare := true }
  | .plain => if line.plain then .error .argumentConflict else .ok { line with plain := true }
  | .help => .error .help
  | .version => .error .version

end CommandLine

namespace Reading

/-- Takes the value that is pending. An option needs a value, and a path must not be empty. -/
def settle (r : Reading) : Except Interruption Reading :=
  match r.pending with
  | none => .ok r
  | some (.path value) =>
    if value.isEmpty then .error .invalidValue
    else .ok { r with line := { r.line with path := some value }, pending := none }
  | some (.setting _ none) => .error .invalidValue
  | some (.setting s (some value)) => do
    return { r with line := ← r.line.give s value, pending := none }

def switch (r : Reading) (s : Switch) : Except Interruption Reading := do
  let r ← r.settle
  return { r with line := ← r.line.turnOn s }

def longOption (r : Reading) (name : String) (value : Option String) :
    Except Interruption Reading :=
  match LongOption.ofName? name, value with
  | none, _ => .error .unknownArgument
  | some (.switch _), some _ => .error .tooManyValues
  | some (.switch s), none => r.switch s
  | some (.setting s), some value => do
    let r ← r.settle
    return { r with line := ← r.line.give s value }
  | some (.setting s), none => do
    return { ← r.settle with pending := some (.setting s none) }

def letters (r : Reading) : List Char → Except Interruption Reading
  | [] => .ok r
  | c :: rest =>
    match Switch.ofLetter? c with
    | none => .error .unknownArgument
    | some s => do (← r.switch s).letters rest

def path (r : Reading) (value : String) : Except Interruption Reading :=
  if r.hasPath then .error .unknownArgument
  else do return { ← r.settle with pending := some (.path value), hasPath := true }

/-- An argument that is no option: the value that an option waits for, or a path. -/
def value (r : Reading) (text : String) : Except Interruption Reading :=
  match r.pending with
  | some (.setting s none) => .ok { r with pending := some (.setting s (some text)) }
  | _ => r.path text

def splitValue (text : List Char) : String × Option String :=
  let name := String.ofList (text.takeWhile (· ≠ '='))
  match text.dropWhile (· ≠ '=') with
  | [] => (name, none)
  | _ :: value => (name, some (String.ofList value))

def argument (r : Reading) (text : String) : Except Interruption Reading :=
  if r.onlyPaths then r.path text
  else
    match text.toList with
    | ['-', '-'] => .ok { r with onlyPaths := true }
    | '-' :: '-' :: long =>
      let (name, value) := splitValue long
      r.longOption name value
    | '-' :: c :: short => r.letters (c :: short)
    | _ => r.value text

end Reading

namespace CommandLine

/-- Reads the arguments; the value of the environment variable stands in for the option that is not
given. -/
def parse (args : List String) (envPreset : Option String) : Except Interruption CommandLine := do
  let r ← args.foldlM Reading.argument {}
  let r ← r.settle
  let line := { r.line with envPreset := r.line.envPreset <|> envPreset }
  if line.compare && line.details then .error .argumentConflict else return line

end CommandLine

end BranchCount
