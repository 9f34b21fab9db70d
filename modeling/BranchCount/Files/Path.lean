/-!
Paths as text.

A path is read as its components: the root if it starts with a slash, a leading `.`, and names.
Repeated and trailing slashes and any later `.` name nothing, and `..` is a name like any other. The
directories above a path are its own text, cut behind each of its components in turn.
-/
namespace BranchCount.Path

inductive Component where
  | root
  | here
  | name (text : List Char)
deriving Repr, DecidableEq, Inhabited

/-- A component, and how many characters of the path it ends behind. -/
structure Piece where
  component : Component
  stop : Nat
deriving Repr, DecidableEq, Inhabited

def segments : List Char → List (List Char)
  | [] => [[]]
  | '/' :: rest => [] :: segments rest
  | c :: rest =>
    match segments rest with
    | [] => [[c]]
    | first :: others => (c :: first) :: others

def names (start : Nat) : List (List Char) → List Piece
  | [] => []
  | segment :: rest =>
    let stop := start + segment.length
    if segment = [] ∨ segment = ['.'] then names (stop + 1) rest
    else ⟨.name segment, stop⟩ :: names (stop + 1) rest

def pieces (path : List Char) : List Piece :=
  match path with
  | '/' :: rest => ⟨.root, 1⟩ :: names 1 (segments rest)
  | _ =>
    match segments path with
    | ['.'] :: rest => ⟨.here, 1⟩ :: names 2 rest
    | all => names 0 all

def components (path : List Char) : List Component :=
  (pieces path).map (·.component)

def isAbsolute (path : List Char) : Bool :=
  path.head? = some '/'

/-- The path cut behind each component but the last, the longest first; above a relative path
stands the empty one. -/
def above (path : List Char) : List (List Char) :=
  match pieces path with
  | [] => []
  | found =>
    found.dropLast.reverse.map (fun piece => path.take piece.stop) ++
      if isAbsolute path then [] else [[]]

def ancestors (path : List Char) : List (List Char) :=
  path :: above path

def parent? (path : List Char) : Option (List Char) :=
  (above path).head?

/-- One more component, divided by a slash unless there is one or nothing stands before it. -/
def push (path name : List Char) : List Char :=
  if path.isEmpty || path.getLast? = some '/' then path ++ name else path ++ '/' :: name

/-- A path with the current directory in front and nothing that names nothing, except that two
leading slashes and a trailing one stay. The empty path cannot be made absolute. -/
def absolute? (current path : List Char) : Option (List Char) :=
  if path.isEmpty then none
  else
    let texts := (components path).filterMap fun
      | .name text => some text
      | _ => none
    let base :=
      if !isAbsolute path then current
      else if path.take 2 = ['/', '/'] && path.take 3 ≠ ['/', '/', '/'] then ['/', '/']
      else ['/']
    let whole := texts.foldl push base
    some (if path.getLast? = some '/' then push whole [] else whole)

def containing (current path : List Char) : List Char :=
  let whole := (absolute? current path).getD path
  (parent? whole).getD whole

end BranchCount.Path
