import BranchCount.Text.Blank

/-!
Colours and emoji of the reports.

With colours on, a text stands between an escape sequence that switches its style on and one that
resets the terminal; a reset inside the text switches the style on again. With colours off the text
stands alone, and emoji give way to words.
-/
namespace BranchCount

inductive ColorMode where
  | auto
  | always
  | never
deriving Repr, DecidableEq, Inhabited

namespace ColorMode

def name : ColorMode → String
  | auto => "auto"
  | always => "always"
  | never => "never"

def parse? (text : String) : Option ColorMode :=
  match String.ofList (Text.lower text.toList) with
  | "auto" => some auto
  | "always" => some always
  | "never" => some never
  | _ => none

/-- Whether colours are used. Left to itself, colour needs a terminal that is not a dumb one. -/
def isOn (mode : ColorMode) (term : Option String) (onTerminal : Bool) : Bool :=
  match mode with
  | always => true
  | never => false
  | auto => term ≠ some "dumb" && onTerminal

end ColorMode

structure ColorVars where
  noColor : Option String := none
  color : Option String := none
  colorForce : Option String := none
  term : Option String := none
deriving Repr, DecidableEq, Inhabited

/-- The mode the environment asks for; a variable named later here wins over one named before. -/
def ColorMode.ofVars (vars : ColorVars) : ColorMode :=
  if vars.colorForce = some "1" then .always
  else if vars.color = some "0" then .never
  else if vars.noColor.isSome then .never
  else .auto

structure Style where
  colored : Bool
deriving Repr, DecidableEq, Inhabited

namespace Style

def plain : Style := ⟨false⟩

/-- The style of a mode when output does not go to a terminal. -/
def ofMode (mode : ColorMode) : Style :=
  ⟨mode.isOn none false⟩

def reset : List Char :=
  ['\x1b', '[', '0', 'm']

/-- Repeats the opening sequence after each reset inside a text. -/
def reopen (opening : List Char) : List Char → List Char
  | '\x1b' :: '[' :: '0' :: 'm' :: rest => reset ++ opening ++ reopen opening rest
  | c :: rest => c :: reopen opening rest
  | [] => []

def paint (style : Style) (code : String) (text : String) : String :=
  if style.colored then
    let opening := ['\x1b', '['] ++ code.toList ++ ['m']
    String.ofList (opening ++ reopen opening text.toList ++ reset)
  else
    text

def success (style : Style) (text : String) : String :=
  style.paint "32" text

def error (style : Style) (text : String) : String :=
  style.paint "31" text

def warning (style : Style) (text : String) : String :=
  style.paint "33" text

def header (style : Style) (text : String) : String :=
  style.paint "1;34" text

def bold (style : Style) (text : String) : String :=
  style.paint "1" text

def dim (style : Style) (text : String) : String :=
  style.paint "2" text

def emoji (style : Style) (picture word : String) : String :=
  if style.colored then picture else word

end Style

end BranchCount
