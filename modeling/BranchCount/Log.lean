import BranchCount.Report.Layout
import BranchCount.Text.Blank

/-!
Records of what was done, for whoever runs the program.

A computation that keeps records gives its value together with them, in order. A filter decides
which records are shown: it has directives, each with the most detailed level it lets through and
the start of the names of the places it is about, and the longest such name that fits a record
decides on it.
-/
namespace BranchCount

inductive LogLevel where
  | error
  | warn
  | info
  | debug
  | trace
deriving Repr, DecidableEq, Inhabited

namespace LogLevel

def all : List LogLevel :=
  [error, warn, info, debug, trace]

def name : LogLevel → String
  | error => "ERROR"
  | warn => "WARN"
  | info => "INFO"
  | debug => "DEBUG"
  | trace => "TRACE"

/-- Detail from 1 for errors to 5 for traces; 0 is left for "nothing at all". -/
def detail : LogLevel → Nat
  | error => 1
  | warn => 2
  | info => 3
  | debug => 4
  | trace => 5

def colorCode : LogLevel → String
  | error => "1;31"
  | warn => "33"
  | info => "32"
  | debug => "34"
  | trace => "36"

end LogLevel

inductive LogOrigin where
  | resolution
  | analysis
  | comparison
  | discovery
deriving Repr, DecidableEq, Inhabited

def LogOrigin.name : LogOrigin → String
  | resolution => "pyclomatic::config::loader"
  | analysis => "pyclomatic::analyzers"
  | comparison => "pyclomatic::commands::compare"
  | discovery => "pyclomatic::complexity::functions"

structure LogRecord where
  level : LogLevel
  origin : LogOrigin
  message : String
deriving Repr, DecidableEq, Inhabited

def LogRecord.summary (r : LogRecord) : String :=
  r.level.name ++ " " ++ r.origin.name ++ ": " ++ r.message

/-- A value with the records kept on the way to it. -/
structure Logged (α : Type) where
  value : α
  records : List LogRecord

namespace Logged

instance : Monad Logged where
  pure a := ⟨a, []⟩
  bind x f :=
    let y := f x.value
    ⟨y.value, x.records ++ y.records⟩

def note (level : LogLevel) (origin : LogOrigin) (message : String) : Logged Unit :=
  ⟨(), [⟨level, origin, message⟩]⟩

end Logged

/-- What a filter says about the places whose names start with `scope`. -/
structure LogDirective where
  scope : Option String
  detail : Nat
deriving Repr, DecidableEq, Inhabited

structure LogFilter where
  directives : List LogDirective
deriving Repr, DecidableEq, Inhabited

namespace LogFilter

def detail? (word : String) : Option Nat :=
  let word := word.map Char.toUpper
  if word = "OFF" then some 0
  else (LogLevel.all.find? (·.name = word)).map LogLevel.detail

def trim (text : String) : String :=
  String.ofList (Text.trim text.toList)

/-- One directive: a level, the start of a name, or both. What cannot be read is skipped. -/
def directive? (text : String) : Option LogDirective :=
  match text.splitOn "=" with
  | [word] =>
    match detail? word with
    | some detail => some ⟨none, detail⟩
    | none => some ⟨some word, LogLevel.trace.detail⟩
  | [scope, word] =>
    let word := trim word
    if word.isEmpty then some ⟨some scope, LogLevel.trace.detail⟩
    else (detail? word).map fun detail => ⟨some scope, detail⟩
  | _ => none

def insert (directives : List LogDirective) (d : LogDirective) : List LogDirective :=
  if directives.any (·.scope = d.scope) then
    directives.map fun other => if other.scope = d.scope then d else other
  else
    directives ++ [d]

/-- Reads directives divided by commas. Without any, only errors are shown. -/
def parse (text : String) : LogFilter :=
  let parts := ((text.splitOn ",").map trim).filter (!·.isEmpty)
  match (parts.filterMap directive?).foldl insert [] with
  | [] => ⟨[⟨none, LogLevel.error.detail⟩]⟩
  | directives => ⟨directives⟩

def standard : LogFilter :=
  ⟨[⟨none, LogLevel.warn.detail⟩]⟩

def covers (d : LogDirective) (name : String) : Bool :=
  match d.scope with
  | none => true
  | some scope => scope.isPrefixOf name

def scopeSize (d : LogDirective) : Nat :=
  (d.scope.getD "").utf8ByteSize

/-- The directive with the longest scope among those that cover a place; of two such, the later. -/
def deciding? (filter : LogFilter) (name : String) : Option LogDirective :=
  let covering := filter.directives.filter (covers · name)
  (covering.mergeSort fun a b => scopeSize a ≤ scopeSize b).getLast?

def shows (filter : LogFilter) (r : LogRecord) : Bool :=
  match filter.deciding? r.origin.name with
  | none => false
  | some d => r.level.detail ≤ d.detail

end LogFilter

/-- A record as a line, in colour or not. Further lines of a message are indented. -/
def LogRecord.line (colored : Bool) (r : LogRecord) : String :=
  let level := Layout.padRight 5 r.level.name
  let message := r.message.replace "\n" "\n    "
  if colored then
    "\x1b[90m[\x1b[0m\x1b[" ++ r.level.colorCode ++ "m" ++ level ++ "\x1b[0m " ++ r.origin.name ++
      "\x1b[90m]\x1b[0m " ++ message ++ "\n"
  else
    "[" ++ level ++ " " ++ r.origin.name ++ "] " ++ message ++ "\n"

end BranchCount
