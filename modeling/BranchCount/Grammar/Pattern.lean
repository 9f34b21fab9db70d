import BranchCount.Grammar.Expression

/-!
Parsing the patterns of `case`.
-/
namespace BranchCount.Grammar

open BranchCount.Parser

def startsPattern : Token → Bool
  | .name _ | .integer _ | .float _ | .imaginary _ | .string _ => true
  | .fixed s => ["(", "[", "\x7b", "-", "*", "None", "True", "False"].contains s
  | _ => false

/-- The name a pattern binds; an underscore binds nothing. -/
def boundName (name : String) : Option String :=
  if name = "_" then none else some name

def number : Parser Unit := do
  match ← peek? with
  | some (.integer _) | some (.float _) | some (.imaginary _) => advance
  | _ => unexpected

def signedNumber : Parser Expr := do
  let start ← here
  let _ ← accept "-"
  number
  if ← seesOneOf ["+", "-"] then
    advance
    number
  return .constant (← since start)

def dottedTail (start : Nat) (first : Expr) : Parser Expr :=
  repeatStep
    (fun (value : Expr) => do
      if ← accept "." then
        let _ ← name
        return some (.attribute (← since start) value)
      else
        return none)
    first

def isLiteralStart : Token → Bool
  | .integer _ | .float _ | .imaginary _ | .string _ => true
  | .fixed s => ["-", "None", "True", "False"].contains s
  | _ => false

def literal (go : Levels) : Parser Expr := do
  let start ← here
  match ← peek? with
  | some (.string _) => strings go
  | some (.fixed "None") | some (.fixed "True") | some (.fixed "False") =>
    advance
    return .constant (← since start)
  | _ => signedNumber

def mappingKey (go : Levels) : Parser Expr := do
  if (← peek?).any isLiteralStart then literal go
  else
    let start ← here
    let _ ← name
    let first := Expr.name (← since start)
    unless ← sees "." do unexpected
    dottedTail start first

structure MappingItems where
  keys : List Expr := []
  items : List Pattern := []
  rest : Option String := none

def startsMappingEntry (t : Token) : Bool :=
  isLiteralStart t || isName (some t) || t.isFixed "**"

/-- Entries with commas between them; what takes the rest comes last. -/
def mappingItems (go : Levels) (pattern : Parser Pattern) : Parser MappingItems := do
  let (found, _) ← repeatStep
    (fun (state : MappingItems × Bool) => do
      let (found, more) := state
      if !more || !(← peek?).any startsMappingEntry then return none
      else if ← accept "**" then
        let rest ← name
        let _ ← accept ","
        return some ({ found with rest := some rest }, false)
      else
        let key ← mappingKey go
        expect ":"
        let item ← pattern
        return some
          ({ found with keys := found.keys ++ [key], items := found.items ++ [item] },
            ← accept ","))
    ({}, true)
  return found

structure ClassItems where
  items : List Pattern := []
  names : List String := []
  named : List Pattern := []

def classItems (pattern : Parser Pattern) : Parser ClassItems := do
  let (found, _) ← repeatStep
    (fun (state : ClassItems × Bool) => do
      let (found, more) := state
      if !more || !(← peek?).any startsPattern then return none
      else if !found.names.isEmpty || (isName (← peek?) && (← seesSecond "=")) then
        let key ← name
        expect "="
        let item ← pattern
        return some
          ({ found with names := found.names ++ [key], named := found.named ++ [item] },
            ← accept ",")
      else
        let item ← pattern
        return some ({ found with items := found.items ++ [item] }, ← accept ","))
    ({}, true)
  return found

/-- A name: alone it binds, with attributes it is a value, and before parentheses a class. -/
def namePattern (pattern : Parser Pattern) : Parser Pattern := do
  let start ← here
  let text ← name
  let first := Expr.name (← since start)
  let dotted ← sees "."
  let value ← dottedTail start first
  if ← accept "(" then
    let found ← classItems pattern
    expect ")"
    return .object value found.items found.names found.named
  else if dotted then
    return .value value
  else
    return .binding none (boundName text)

def closedPattern (go : Levels) (pattern : Parser Pattern) : Parser Pattern := do
  match ← peek? with
  | some (.name _) => namePattern pattern
  | some (.fixed "*") =>
    advance
    return .star (boundName (← name))
  | some (.fixed "(") =>
    advance
    if ← accept ")" then return .sequence []
    let items ← someItems startsPattern pattern
    expect ")"
    match items with
    | ([item], false) => return item
    | (items, _) => return .sequence items
  | some (.fixed "[") =>
    advance
    let items ← anyItems startsPattern pattern
    expect "]"
    return .sequence items
  | some (.fixed "\x7b") =>
    advance
    let found ← mappingItems go pattern
    expect "\x7d"
    return .mapping found.keys found.items found.rest
  | some token =>
    if isLiteralStart token then return .value (← literal go) else unexpected
  | none => unexpected

/-- Alternatives, which may be bound together to a name. -/
def patternStep (go : Levels) (pattern : Parser Pattern) : Parser Pattern := do
  let start ← here
  let first ← closedPattern go pattern
  let others ← repeatStep
    (fun (others : List Pattern) => do
      if ← accept "|" then return some ((← closedPattern go pattern) :: others)
      else return none)
    []
  let whole := if others.isEmpty then first else .either (first :: others.reverse)
  if ← accept "as" then
    let text ← name
    if text = "_" then rejectWhole .wildcardTarget start
    return .binding (some whole) (some text)
  else
    return whole

def pattern (go : Levels) : Nat → Parser Pattern
  | 0 => unexpected
  | fuel + 1 => patternStep go (pattern go fuel)

/-- The whole of what stands between `case` and a guard or colon. -/
def patterns (pattern : Parser Pattern) : Parser Pattern := do
  match ← someItems startsPattern pattern with
  | ([item], false) => return item
  | (items, _) => return .sequence items

end BranchCount.Grammar
