import BranchCount.Rules.Basic
import BranchCount.Text.Blank

/-!
The three rule sets that are built in. Each counts all that the one before it counts.
-/
namespace BranchCount

inductive Preset where
  | strict
  | standard
  | comprehensive
deriving Repr, DecidableEq, Inhabited

namespace Preset

def all : List Preset :=
  [strict, standard, comprehensive]

def name : Preset → String
  | strict => "strict"
  | standard => "standard"
  | comprehensive => "comprehensive"

/-- Loops, branches, handlers, ternaries and match cases. -/
def strictRules : RuleSet where
  name := "Strict McCabe"
  description := "Original McCabe complexity (minimal)"
  counts
    | .assertion | .boolOp | .comprehension | .filter | .withBlock => false
    | _ => true

/-- Boolean chains and comprehensions as well. -/
def standardRules : RuleSet where
  name := "Standard (Industry Common)"
  description := "Common industry standard (Radon, ESLint)"
  counts
    | .assertion | .withBlock => false
    | _ => true

def comprehensiveRules : RuleSet where
  name := "Comprehensive"
  description := "Most conservative (SonarQube-like)"
  counts _ := true

def rules : Preset → RuleSet
  | strict => strictRules
  | standard => standardRules
  | comprehensive => comprehensiveRules

/-- The preset with a name, whatever its letter case and the blanks around it. -/
def parse? (text : String) : Option Preset :=
  match String.ofList (Text.lower (Text.trim text.toList)) with
  | "strict" | "strict_mccabe" | "mccabe" => some strict
  | "standard" => some standard
  | "comprehensive" => some comprehensive
  | _ => none

def unknownMessage (text : String) : String :=
  "Invalid preset: '" ++ text ++ "'. Valid options: strict, standard, comprehensive"

end Preset

end BranchCount
