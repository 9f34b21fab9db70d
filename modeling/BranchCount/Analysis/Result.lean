import BranchCount.Metrics

/-!
What the analysis of a file gives: its functions, or the reason why there are none.
-/
namespace BranchCount

/-- Reasons for which a file cannot be analyzed. Counting itself never fails. -/
inductive AcquireError where
  | fileNotFound (path : String)
  | badSyntax (message : String) (line column : Nat)
  /-- The file is there but cannot be read as text. -/
  | unreadable (message : String)
  | unknown (message : String)
deriving Repr, DecidableEq, Inhabited

inductive ErrorType where
  | badSyntax
  | fileNotFound
  | unknown
deriving Repr, DecidableEq, Inhabited

namespace ErrorType

def all : List ErrorType :=
  [badSyntax, fileNotFound, unknown]

def name : ErrorType → String
  | badSyntax => "syntax"
  | fileNotFound => "file_not_found"
  | unknown => "unknown"

end ErrorType

namespace AcquireError

def message : AcquireError → String
  | fileNotFound path => "File not found: " ++ path
  | badSyntax message line _ => "Syntax error: " ++ message ++ " at line " ++ toString line
  | unreadable message => message
  | unknown message => message

def errorType : AcquireError → ErrorType
  | fileNotFound _ => .fileNotFound
  | badSyntax .. => .badSyntax
  | unreadable _ | unknown _ => .unknown

/-- The line at fault, which only a syntax error has. -/
def line? : AcquireError → Option Nat
  | badSyntax _ line _ => some line
  | _ => none

def column? : AcquireError → Option Nat
  | badSyntax _ _ column => some column
  | _ => none

end AcquireError

structure FileComplexity where
  functions : List FunctionRecord
  configUsed : String
deriving Repr, DecidableEq, Inhabited

structure Failure where
  error : String
  errorType : ErrorType
  line : Option Nat
deriving Repr, DecidableEq, Inhabited

def AcquireError.toFailure (e : AcquireError) : Failure :=
  ⟨e.message, e.errorType, e.line?⟩

inductive AnalysisResult where
  | success (file : FileComplexity)
  | failure (failure : Failure)
deriving Repr, DecidableEq, Inhabited

namespace AnalysisResult

def isSuccess : AnalysisResult → Bool
  | success _ => true
  | failure _ => false

/-- The functions found; none after a failure. -/
def functions : AnalysisResult → List FunctionRecord
  | success file => file.functions
  | failure _ => []

def success? : AnalysisResult → Option FileComplexity
  | success file => some file
  | failure _ => none

def failure? : AnalysisResult → Option Failure
  | success _ => none
  | failure f => some f

end AnalysisResult

end BranchCount
