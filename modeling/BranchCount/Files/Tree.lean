import BranchCount.Files.Path
import BranchCount.Text.Bytes

/-!
Files and directories.

A file system says of every place, a list of names from the root, what is there. A path is followed
from the root or from the current directory, name by name, and each step but the last has to end in
a directory.
-/
namespace BranchCount

/-- What the system gives for the contents of a file; it may refuse to read them. -/
inductive Contents where
  | bytes (data : ByteArray)
  | refused (message : String)

-- This instance is not derived, since there is more than one for the equality of byte arrays.
instance : DecidableEq Contents
  | .bytes a, .bytes b =>
    have := ByteArray.instDecidableEq a b
    decidable_of_iff (a = b) ⟨congrArg Contents.bytes, Contents.bytes.inj⟩
  | .refused m, .refused n =>
    decidable_of_iff (m = n) ⟨congrArg Contents.refused, Contents.refused.inj⟩
  | .bytes _, .refused _ => isFalse nofun
  | .refused _, .bytes _ => isFalse nofun

inductive Entry where
  | file (contents : Contents)
  | directory
  /-- A directory that the system does not let anyone into. -/
  | closed (message : String)

inductive FileError where
  | notFound
  | isDirectory
  | notDirectory
  | nameTooLong
  | nulInPath
  | notText
  | other (message : String)
deriving Repr, DecidableEq, Inhabited

def FileError.message : FileError → String
  | notFound => "No such file or directory (os error 2)"
  | isDirectory => "Is a directory (os error 21)"
  | notDirectory => "Not a directory (os error 20)"
  | nameTooLong => "File name too long (os error 36)"
  | nulInPath => "file name contained an unexpected NUL byte"
  | notText => "stream did not contain valid UTF-8"
  | other message => message

structure FileSystem where
  entry? : List (List Char) → Option Entry
  current : List (List Char)

namespace FileSystem

/-- A file system with nothing but a current directory and the directories above it. -/
def empty (current : List (List Char)) : FileSystem where
  entry? place := if place.isPrefixOf current then some .directory else none
  current

def currentPath (fs : FileSystem) : List Char :=
  fs.current.foldl Path.push ['/']

def nameLimit : Nat := 255

def pathLimit : Nat := 4095

/-- The place behind one more segment, without a look at what is there. -/
def follow (place : List (List Char)) (segment : List Char) : List (List Char) :=
  if segment = [] ∨ segment = ['.'] then place
  else if segment = ['.', '.'] then place.dropLast
  else place ++ [segment]

/-- Follows one segment of a path; what stands before it has to be a directory. -/
def step (fs : FileSystem) (place : List (List Char)) (segment : List Char) :
    Except FileError (List (List Char)) :=
  match fs.entry? place with
  | none => .error .notFound
  | some (.file _) => .error .notDirectory
  | some (.closed message) => .error (.other message)
  | some .directory =>
    if nameLimit < Text.byteCount segment then .error .nameTooLong
    else .ok (follow place segment)

/-- The place that a path leads to, whether or not anything is there. -/
def locate (fs : FileSystem) (path : List Char) : Except FileError (List (List Char)) :=
  match path with
  | [] => .error .notFound
  | '/' :: rest => (Path.segments rest).foldlM fs.step []
  | _ => (Path.segments path).foldlM fs.step fs.current

def find (fs : FileSystem) (path : List Char) : Except FileError Entry :=
  if path.contains '\x00' then .error .nulInPath
  else if pathLimit < Text.byteCount path then .error .nameTooLong
  else
    match fs.locate path with
    | .error e => .error e
    | .ok place =>
      match fs.entry? place with
      | none => .error .notFound
      | some entry => .ok entry

def isFile (fs : FileSystem) (path : List Char) : Bool :=
  match fs.find path with
  | .ok (.file _) => true
  | _ => false

def readText (fs : FileSystem) (path : List Char) : Except FileError String :=
  match fs.find path with
  | .error e => .error e
  | .ok .directory => .error .isDirectory
  | .ok (.closed message) => .error (.other message)
  | .ok (.file (.refused message)) => .error (.other message)
  | .ok (.file (.bytes data)) =>
    match String.fromUTF8? data with
    | some text => .ok text
    | none => .error .notText

def startOf (fs : FileSystem) (path : List Char) : List (List Char) :=
  if Path.isAbsolute path then [] else fs.current

def placeOf (fs : FileSystem) (path : List Char) : List (List Char) :=
  (Path.segments path).foldl follow (fs.startOf path)

/-- Puts an entry at a place, and directories above it. -/
def put (fs : FileSystem) (place : List (List Char)) (entry : Entry) : FileSystem :=
  { fs with
    entry? := fun other =>
      if other = place then some entry
      else if other.isPrefixOf place then some .directory
      else fs.entry? other }

def remove (fs : FileSystem) (place : List (List Char)) : FileSystem :=
  { fs with entry? := fun other => if place.isPrefixOf other then none else fs.entry? other }

def writeFile (fs : FileSystem) (path : List Char) (data : ByteArray) : FileSystem :=
  fs.put (fs.placeOf path) (.file (.bytes data))

def makeDirectory (fs : FileSystem) (path : List Char) : FileSystem :=
  fs.put (fs.placeOf path) .directory

def delete (fs : FileSystem) (path : List Char) : FileSystem :=
  fs.remove (fs.placeOf path)

end FileSystem

end BranchCount
