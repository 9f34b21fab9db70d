import BranchCount.Analysis.Result
import BranchCount.Discovery
import BranchCount.Grammar.Statement

/-!
Analysis of the text of a module.
-/
namespace BranchCount

/-- A parser of modules gives the statements of a text, or says what is wrong with it and where. -/
abbrev ModuleParser := String → Except SourceError (List Stmt)

structure ParsedModule where
  statements : List Stmt
  lines : LineTable

/-- The error of the parser at its line and column; a place behind the text is moved to its end. -/
def SourceError.locate (e : SourceError) (text : String) : AcquireError :=
  let place := (LineTable.ofText text).position (min e.offset text.utf8ByteSize)
  .badSyntax e.problem.message place.line place.col

namespace ParsedModule

def ofText (parse : ModuleParser) (text : String) : Except AcquireError ParsedModule :=
  match parse text with
  | .ok statements => .ok ⟨statements, LineTable.ofText text⟩
  | .error e => .error (e.locate text)

def discover (m : ParsedModule) (rules : RuleSet) : Found :=
  BranchCount.discover ⟨rules, m.lines⟩ m.statements

def analyze (m : ParsedModule) (rules : RuleSet) : FileComplexity :=
  ⟨(m.discover rules).records, rules.name⟩

end ParsedModule

def analyzeText (parse : ModuleParser) (rules : RuleSet) (text : String) :
    Except AcquireError FileComplexity := do
  let m ← ParsedModule.ofText parse text
  return m.analyze rules

end BranchCount
