import BranchCount.Syntax
import BranchCount.Token.Basic

/-!
Walking along the tokens of a module.

A parser takes tokens from the front and never takes one that no module could have there, so the
token it stops at is the first that is wrong. Where the tokens end because something is no token,
that is what is wrong.
-/
namespace BranchCount

/-- The tokens that are left, what comes behind them, and the end of the last token taken. -/
structure Cursor where
  rest : List Lexeme
  ending : Ending
  /-- More than the number of all tokens. -/
  bound : Nat
  last : Nat := 0
deriving Inhabited

def Cursor.ofTokens (tokens : List Lexeme) (ending : Ending) : Cursor where
  rest := tokens
  ending
  bound := tokens.length + 1

abbrev Parser (α : Type) := StateT Cursor (Except SourceError) α

namespace Parser

variable {α β : Type}

def failAt (problem : Problem) (offset : Nat) : Parser α :=
  throw ⟨problem, offset⟩

def peek? : Parser (Option Token) := do
  let c ← get
  match c.rest, c.ending with
  | lexeme :: _, _ => return some lexeme.token
  | [], .ended => return none
  | [], .broken e => throw e

def here : Parser Nat := do
  let c ← get
  match c.rest with
  | lexeme :: _ => return lexeme.range.start
  | [] => return c.last

/-- The range from the given start to the end of the last token taken. -/
def since (start : Nat) : Parser Range := do
  return ⟨start, (← get).last⟩

def unexpected : Parser α := do
  let c ← get
  match c.rest, c.ending with
  | ⟨.indent, range⟩ :: _, _ => failAt .unexpectedIndent range.start
  | lexeme :: _, _ => failAt (.unexpectedToken lexeme.token) lexeme.range.start
  | [], .ended => failAt .unexpectedEnd c.last
  | [], .broken e => throw e

def advance : Parser Unit :=
  modify fun c =>
    match c.rest with
    | lexeme :: rest => { c with rest, last := lexeme.range.stop }
    | [] => c

def sees (spelling : String) : Parser Bool := do
  return (← peek?).any (Token.isFixed spelling)

def seesOneOf (spellings : List String) : Parser Bool := do
  return (← peek?).any fun token => spellings.any token.isFixed

def seesSecond (spelling : String) : Parser Bool := do
  match (← get).rest with
  | _ :: lexeme :: _ => return lexeme.token.isFixed spelling
  | _ => return false

def accept (spelling : String) : Parser Bool := do
  if ← sees spelling then
    advance
    return true
  else
    return false

def acceptIf (allowed : Bool) (spelling : String) : Parser Bool :=
  if allowed then accept spelling else return false

def expect (spelling : String) : Parser Unit := do
  unless ← accept spelling do unexpected

def name : Parser String := do
  match ← peek? with
  | some (.name text) =>
    advance
    return text
  | _ => unexpected

def newline : Parser Unit := do
  match ← peek? with
  | some .newline => advance
  | _ => unexpected

def dedent : Parser Unit := do
  match ← peek? with
  | some .dedent => advance
  | _ => unexpected

def indent : Parser Unit := do
  match ← peek? with
  | some .indent => advance
  | some _ => failAt .expectedIndent (← here)
  | none => failAt .unindentMismatch (← here)

/-- Repeats a step until it has nothing more to do, at most `fuel` times. -/
def iterate (step : α → Parser (Option α)) : Nat → α → Parser α
  | 0, a => return a
  | fuel + 1, a => do
    match ← step a with
    | none => return a
    | some b => iterate step fuel b

/-- Repeats a step that takes at least one token each time. -/
def repeatStep (step : α → Parser (Option α)) (a : α) : Parser α := do
  iterate step (← get).bound a

/-- Items with commas between them, and possibly one behind the last, behind a first item. A comma
ends the list if no item starts behind it. Tells also whether there was a comma at all. -/
def moreItems (starts : Token → Bool) (item : Parser α) (first : α) : Parser (List α × Bool) := do
  let (items, comma, _) ← repeatStep
    (fun (state : List α × Bool × Bool) => do
      let (items, _, done) := state
      if done then return none
      else if ← accept "," then
        if (← peek?).any starts then return some ((← item) :: items, true, false)
        else return some (items, true, true)
      else return none)
    ([first], false, false)
  return (items.reverse, comma)

def someItems (starts : Token → Bool) (item : Parser α) : Parser (List α × Bool) := do
  moreItems starts item (← item)

def anyItems (starts : Token → Bool) (item : Parser α) : Parser (List α) := do
  if (← peek?).any starts then return (← someItems starts item).1
  else return []

end Parser

namespace Token

def startsOperand : Token → Bool
  | .name _ | .integer _ | .float _ | .imaginary _ | .string _ => true
  | .fixed s =>
    ["(", "[", "\x7b", "-", "+", "~", "await", "...", "None", "True", "False"].contains s
  | _ => false

def startsExpr (t : Token) : Bool :=
  t.startsOperand || t.isFixed "not" || t.isFixed "lambda"

def startsItem (t : Token) : Bool :=
  t.startsExpr || t.isFixed "*"

/-- Whether a token can come behind a complete expression somewhere in a module. -/
def followsExpr : Token → Bool
  | .newline => true
  | .fixed s =>
    [")", "]", "\x7d", ",", ":", ";", "=", "(", "[", ".", "if", "else", "for", "async", "in", "not",
      "is", "and", "or", "as", "from", "==", "!=", "<", "<=", ">", ">=", "+", "-", "*", "/", "//",
      "%", "@", "**", "|", "^", "&", "<<", ">>", "+=", "-=", "*=", "/=", "//=", "%=", "@=", "&=",
      "|=", "^=", "<<=", ">>=", "**="].contains s
  | _ => false

end Token

/-- What is wrong with a construct as a whole shows once the token behind it has been looked at; if
nothing could go on with that token, it is the token that is wrong. -/
def Parser.rejectWhole {α : Type} (problem : Problem) (offset : Nat) : Parser α := do
  match ← Parser.peek? with
  | some token => if token.followsExpr then failAt problem offset else unexpected
  | none => failAt problem offset

end BranchCount
