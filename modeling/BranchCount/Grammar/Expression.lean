import BranchCount.Grammar.Formatted
import BranchCount.Token.Lexer
import BranchCount.Token.Soft

/-!
Parsing expressions.

Each level of the grammar is a function of a parser for the levels inside brackets and behind
operators. That parser is the whole grammar again, with less fuel: before it is called at least one
token has been taken, so as much fuel as there are characters is enough.
-/
namespace BranchCount

inductive Goal where
  /-- Any expression without a name binding. -/
  | test
  /-- An expression without a ternary or a `lambda` on the outside. -/
  | orTest
  | notTest
  /-- An expression without comparisons and boolean operators on the outside. -/
  | operand
  | factor
deriving Repr, DecidableEq, Inhabited

abbrev Levels := Goal → Parser Expr

namespace Grammar

open BranchCount.Parser

def star (go : Levels) : Parser Expr := do
  let start ← here
  expect "*"
  let value ← go .operand
  return .starred (← since start) value

def testOrStar (go : Levels) : Parser Expr := do
  if ← sees "*" then star go else go .test

def operandOrStar (go : Levels) : Parser Expr := do
  if ← sees "*" then star go else go .operand

def isName : Option Token → Bool
  | some (.name _) => true
  | _ => false

def seesBinding : Parser Bool := do
  return isName (← peek?) && (← seesSecond ":=")

/-- An expression, or a binding of a plain name by `:=`. -/
def namedTest (go : Levels) : Parser Expr := do
  if ← seesBinding then
    let start ← here
    advance
    let target := Expr.name (← since start)
    advance
    let value ← go .test
    return .named (← since start) target value
  else
    go .test

def namedOrStar (go : Levels) : Parser Expr := do
  if ← sees "*" then star go else namedTest go

/-- One item stands for itself; several, or a comma, make a tuple. -/
def tupleOf (start : Nat) (items : List Expr × Bool) : Parser Expr := do
  match items with
  | ([item], false) => return item
  | (items, _) => return .tuple (← since start) items

def testList (go : Levels) : Parser Expr := do
  let start ← here
  tupleOf start (← someItems Token.startsItem (testOrStar go))

def operandList (go : Levels) : Parser Expr := do
  let start ← here
  let starts := fun (t : Token) => t.startsOperand || t.isFixed "*"
  tupleOf start (← someItems starts (operandOrStar go))

def yieldExpr (go : Levels) : Parser Expr := do
  let start ← here
  expect "yield"
  if ← accept "from" then
    let value ← go .test
    return .yieldFrom (← since start) value
  else if (← peek?).any Token.startsItem then
    let value ← testList go
    return .yield (← since start) (some value)
  else
    return .yield (← since start) none

/-! Comprehensions -/

def seesClause : Parser Bool :=
  seesOneOf ["for", "async"]

def filters (go : Levels) : Parser (List Expr) := do
  let found ← repeatStep
    (fun (filters : List Expr) => do
      if ← accept "if" then return some ((← go .orTest) :: filters) else return none)
    []
  return found.reverse

def clause (go : Levels) : Parser Clause := do
  let isAsync ← accept "async"
  expect "for"
  let target ← operandList go
  expect "in"
  let source ← go .orTest
  return .mk isAsync target source (← filters go)

def clauses (go : Levels) : Parser (List Clause) := do
  let found ← repeatStep
    (fun (clauses : List Clause) => do
      if ← seesClause then return some ((← clause go) :: clauses) else return none)
    []
  return found.reverse

/-! Brackets -/

def listAtom (go : Levels) : Parser Expr := do
  let start ← here
  expect "["
  if ← accept "]" then return .list (← since start) []
  let first ← namedOrStar go
  if ← seesClause then
    let clauses ← clauses go
    expect "]"
    return .comprehension (← since start) .list first clauses
  else
    let (items, _) ← moreItems Token.startsItem (namedOrStar go) first
    expect "]"
    return .list (← since start) items

/-- What is in parentheses keeps its own range, unless the parentheses make it what it is. -/
def parenAtom (go : Levels) : Parser Expr := do
  let start ← here
  expect "("
  if ← accept ")" then return .tuple (← since start) []
  if ← sees "yield" then
    let value ← yieldExpr go
    expect ")"
    return value
  let inside ← here
  if ← accept "**" then
    let _ ← go .operand
    expect ")"
    rejectWhole .doubleStarred inside
  let starred ← sees "*"
  let first ← namedOrStar go
  if !starred && (← seesClause) then
    let clauses ← clauses go
    expect ")"
    return .comprehension (← since start) .generator first clauses
  let items ← moreItems Token.startsItem (namedOrStar go) first
  expect ")"
  if starred && items.1.length = 1 && !items.2 then rejectWhole .starredAlone inside
  tupleOf start items

def dictEntry (go : Levels) : Parser (Option Expr × Expr) := do
  if ← accept "**" then
    return (none, ← go .operand)
  else
    let key ← go .test
    expect ":"
    return (some key, ← go .test)

def startsEntry (t : Token) : Bool :=
  t.startsExpr || t.isFixed "**"

def dictOf (go : Levels) (start : Nat) (first : Option Expr × Expr) : Parser Expr := do
  let (entries, _) ← moreItems startsEntry (dictEntry go) first
  expect "\x7d"
  return .dict (← since start) (entries.filterMap (·.1)) (entries.map (·.2))

def setOf (go : Levels) (start : Nat) (first : Expr) : Parser Expr := do
  let (items, _) ← moreItems Token.startsItem (namedOrStar go) first
  expect "\x7d"
  return .set (← since start) items

/-- A dictionary or a set: the first entry tells which. -/
def braceAtom (go : Levels) : Parser Expr := do
  let start ← here
  expect "\x7b"
  if ← accept "\x7d" then return .dict (← since start) [] []
  if ← sees "**" then return ← dictOf go start (← dictEntry go)
  if ← sees "*" then return ← setOf go start (← star go)
  let binding ← seesBinding
  let first ← namedTest go
  if ← acceptIf (!binding) ":" then
    let value ← go .test
    if ← seesClause then
      let clauses ← clauses go
      expect "\x7d"
      return .dictComprehension (← since start) first value clauses
    else
      dictOf go start (some first, value)
  else if ← seesClause then
    let clauses ← clauses go
    expect "\x7d"
    return .comprehension (← since start) .set first clauses
  else
    setOf go start first

/-! Parameters -/

structure FoundParam where
  start : Nat
  role : ParamRole
  name : String
  hint : Option Expr
  fallback : Option Expr

def FoundParam.toParam (p : FoundParam) : Param :=
  .mk p.role p.name p.hint p.fallback

/-- Parameters as they are found, with the place of a star that needs keyword parameters. -/
structure FoundParams where
  params : List FoundParam := []
  bareStar : Option Nat := none
  /-- The last star has been followed by something. -/
  starServed : Bool := true

def paramName (go : Levels) (typed starred : Bool) (role : ParamRole) : Parser FoundParam := do
  let start ← here
  let name ← name
  if ← acceptIf typed ":" then
    let hint ← if starred then testOrStar go else go .test
    return ⟨start, role, name, some hint, none⟩
  else
    return ⟨start, role, name, none, none⟩

def param (go : Levels) (typed : Bool) (role : ParamRole) : Parser FoundParam := do
  let p ← paramName go typed false role
  if ← accept "=" then return { p with fallback := some (← go .test) } else return p

inductive ParamStage where
  | start
  | positional
  | afterSlash
  | afterStar
  | done
deriving Repr, DecidableEq, Inhabited

def nextParam (go : Levels) (typed : Bool) (stage : ParamStage) (found : FoundParams) :
    Parser (Option (ParamStage × FoundParams)) := do
  let add := fun (p : FoundParam) => { found with params := found.params ++ [p] }
  let next ← peek?
  if stage = .done then return none
  else if isName next then
    let role := if stage = .afterStar then .keywordOnly else .positional
    let p ← param go typed role
    let stage := if stage = .start then .positional else stage
    return some (stage, { add p with starServed := true })
  else if ← acceptIf (stage = .positional) "/" then
    let params := found.params.map fun p => { p with role := ParamRole.positionalOnly }
    return some (.afterSlash, { found with params })
  else if stage ≠ .afterStar && (← sees "*") then
    let place ← here
    advance
    if isName (← peek?) then
      let p ← paramName go typed true .rest
      return some (.afterStar, add p)
    else
      return some (.afterStar, { found with bareStar := some place, starServed := false })
  else if ← accept "**" then
    if isName (← peek?) then
      let p ← paramName go typed false .keywordRest
      return some (.done, { add p with starServed := true })
    else
      return some (.done, { found with starServed := true })
  else
    return none

def paramList (go : Levels) (typed : Bool) : Parser FoundParams := do
  let (_, found, _) ← repeatStep
    (fun (state : ParamStage × FoundParams × Bool) => do
      let (stage, found, more) := state
      if !more then return none
      match ← nextParam go typed stage found with
      | none => return none
      | some (stage, found) => return some (stage, found, ← accept ","))
    (.start, {}, true)
  return found

/-- The first parameter without a default value behind one that has one. -/
def missingDefault? (params : List FoundParam) : Option FoundParam :=
  let positional := params.filter fun p => p.role = .positionalOnly || p.role = .positional
  ((positional.dropWhile (·.fallback.isNone)).dropWhile (·.fallback.isSome)).head?

def repeated? (seen : List String) : List FoundParam → Option FoundParam
  | [] => none
  | p :: rest => if seen.contains p.name then some p else repeated? (p.name :: seen) rest

/-- A parameter whose name another one has. The two that take all remaining arguments are looked at
last. -/
def duplicate? (params : List FoundParam) : Option FoundParam :=
  let (others, single) := params.partition fun p => p.role ≠ .rest ∧ p.role ≠ .keywordRest
  repeated? [] (others ++ single)

def checkParams (found : FoundParams) : Parser Unit := do
  match found.bareStar, found.starServed with
  | some place, false => failAt .bareStar place
  | _, _ => pure ()
  match missingDefault? found.params with
  | some p => failAt .missingDefault p.start
  | none => pure ()

def lambdaExpr (go : Levels) : Parser Expr := do
  let start ← here
  expect "lambda"
  let found ← paramList go false
  unless ← sees ":" do unexpected
  checkParams found
  advance
  let body ← go .test
  match duplicate? found.params with
  | some p => rejectWhole (.duplicateParameter p.name) p.start
  | none => return .lambda (← since start) (found.params.map FoundParam.toParam) body

/-! Calls and other trailers -/

inductive ArgumentForm where
  | positional
  | unpacked
  | keyword (name : String)
  | keywords
deriving Repr, DecidableEq, Inhabited

structure Argument where
  start : Nat
  form : ArgumentForm
  value : Expr

/-- A star, two stars or a name with an equals sign stand in front of some arguments; others may be
generators without parentheses. -/
def argument (go : Levels) : Parser Argument := do
  let start ← here
  if ← accept "*" then
    let value ← go .test
    return ⟨start, .unpacked, .starred (← since start) value⟩
  else if ← accept "**" then
    return ⟨start, .keywords, ← go .test⟩
  else if isName (← peek?) && (← seesSecond "=") then
    let name ← name
    advance
    return ⟨start, .keyword name, ← go .test⟩
  else
    let value ← namedTest go
    if ← seesClause then
      let clauses ← clauses go
      return ⟨start, .positional, .comprehension (← since start) .generator value clauses⟩
    else
      return ⟨value.range.start, .positional, value⟩

structure Arguments where
  args : List Expr := []
  keywords : List Keyword := []
  names : List String := []
  doubleStarred : Bool := false

/-- Sorts an argument in, if it may stand where it stands. -/
def Arguments.add (sorted : Arguments) (a : Argument) : Except SourceError Arguments :=
  match a.form with
  | .keyword name =>
    if sorted.names.contains name then .error ⟨.repeatedKeyword name, a.start⟩
    else .ok { sorted with
      keywords := sorted.keywords ++ [.mk (some name) a.value]
      names := name :: sorted.names }
  | .keywords => .ok { sorted with
      keywords := sorted.keywords ++ [.mk none a.value]
      doubleStarred := true }
  | .unpacked =>
    if sorted.doubleStarred then .error ⟨.unpackingAfterKeywords, a.start⟩
    else .ok { sorted with args := sorted.args ++ [a.value] }
  | .positional =>
    if sorted.keywords.isEmpty then .ok { sorted with args := sorted.args ++ [a.value] }
    else .error ⟨.positionalAfterKeyword, a.start⟩

def startsArgument (t : Token) : Bool :=
  t.startsItem || t.isFixed "**"

def arguments (go : Levels) : Parser Arguments := do
  let found ← anyItems startsArgument (argument go)
  unless ← sees ")" do unexpected
  let sorted ← found.foldlM (fun (sorted : Arguments) a => sorted.add a) ({} : Arguments)
  advance
  return sorted

def testIfAny (go : Levels) : Parser (Option Expr) := do
  if (← peek?).any Token.startsExpr then return some (← go .test) else return none

def sliceFrom (go : Levels) (start : Nat) (lower : Option Expr) : Parser Expr := do
  expect ":"
  let upper ← testIfAny go
  let step ← if ← accept ":" then testIfAny go else pure none
  return .slice (← since start) lower upper step

def subscriptItem (go : Levels) : Parser Expr := do
  let start ← here
  if ← sees ":" then return ← sliceFrom go start none
  if ← sees "*" then return ← star go
  let binding ← seesBinding
  let item ← namedTest go
  if !binding && (← sees ":") then sliceFrom go start (some item) else return item

def startsSubscript (t : Token) : Bool :=
  t.startsItem || t.isFixed ":"

def trailers (go : Levels) (start : Nat) (first : Expr) : Parser Expr :=
  repeatStep
    (fun (value : Expr) => do
      if ← accept "(" then
        let found ← arguments go
        return some (.call (← since start) value found.args found.keywords)
      else if ← accept "[" then
        let inside ← here
        let index ← tupleOf inside (← someItems startsSubscript (subscriptItem go))
        expect "]"
        return some (.subscript (← since start) value index)
      else if ← accept "." then
        let _ ← name
        return some (.attribute (← since start) value)
      else
        return none)
    first

/-! Literals and atoms -/

/-- Parses the text of a replacement field, in parentheses, as an expression of its own. -/
def fieldExpr (go : Levels) : ExprReader := fun start text =>
  let stream := tokenize (start - 1) ('(' :: text ++ [')'])
  let cursor := Cursor.ofTokens (settleKeywords false stream.lexemes) stream.ending
  let whole : Parser Expr := do
    let value ← testList go
    let _ ← repeatStep
      (fun (_ : Unit) => do
        match ← peek? with
        | some .newline =>
          advance
          return some ()
        | _ => return none)
      ()
    match ← peek? with
    | none => return value
    | some _ => unexpected
  (whole.run cursor).map (·.1)

def strings (go : Levels) : Parser Expr := do
  let start ← here
  let found ← repeatStep
    (fun (found : List (Range × StringLiteral)) => do
      match (← get).rest with
      | ⟨.string literal, range⟩ :: _ =>
        advance
        return some ((range, literal) :: found)
      | _ => return none)
    []
  let _ ← peek?
  match joinLiterals (fieldExpr go) (← since start) found.reverse with
  | .ok value => return value
  | .error e => rejectWhole e.problem e.offset

def atom (go : Levels) : Parser Expr := do
  let start ← here
  match ← peek? with
  | some (.string _) => strings go
  | some (.integer _) | some (.float _) | some (.imaginary _) =>
    advance
    return .constant (← since start)
  | some (.name _) =>
    advance
    return .name (← since start)
  | some (.fixed "[") => listAtom go
  | some (.fixed "(") => parenAtom go
  | some (.fixed "\x7b") => braceAtom go
  | some (.fixed "...") | some (.fixed "None") | some (.fixed "True") | some (.fixed "False") =>
    advance
    return .constant (← since start)
  | _ => unexpected

/-! Operators -/

def primary (go : Levels) : Parser Expr := do
  let start ← here
  let first ← atom go
  trailers go start first

def awaitable (go : Levels) : Parser Expr := do
  let start ← here
  if ← accept "await" then
    let value ← primary go
    return .await (← since start) value
  else
    primary go

def power (go : Levels) : Parser Expr := do
  let start ← here
  let base ← awaitable go
  if ← accept "**" then
    let exponent ← go .factor
    return .binary (← since start) base exponent
  else
    return base

def factor (go : Levels) : Parser Expr := do
  let start ← here
  if ← seesOneOf ["-", "+", "~"] then
    advance
    let operand ← go .factor
    return .unary (← since start) operand
  else
    power go

/-- The binary operators of each level, those that bind least first. -/
def binaryOperators : List (List String) :=
  [["|"], ["^"], ["&"], ["<<", ">>"], ["+", "-"], ["*", "/", "//", "%", "@"]]

def binary (go : Levels) : List (List String) → Parser Expr
  | [] => factor go
  | operators :: tighter => do
    let start ← here
    let first ← binary go tighter
    repeatStep
      (fun (left : Expr) => do
        if ← seesOneOf operators then
          advance
          let right ← binary go tighter
          return some (.binary (← since start) left right)
        else
          return none)
      first

def operand (go : Levels) : Parser Expr :=
  binary go binaryOperators

def comparator : Parser Bool := do
  if ← seesOneOf ["==", "!=", "<", "<=", ">", ">=", "in"] then
    advance
    return true
  else if ← accept "not" then
    expect "in"
    return true
  else if ← accept "is" then
    let _ ← accept "not"
    return true
  else
    return false

def comparison (go : Levels) : Parser Expr := do
  let start ← here
  let first ← operand go
  let others ← repeatStep
    (fun (others : List Expr) => do
      if ← comparator then return some ((← operand go) :: others) else return none)
    []
  if others.isEmpty then return first
  else return .compare (← since start) first others.reverse

def notTest (go : Levels) : Parser Expr := do
  let start ← here
  if ← accept "not" then
    let operand ← go .notTest
    return .unary (← since start) operand
  else
    comparison go

/-- Operands joined by one boolean operator make one chain. -/
def chainOf (word : String) (op : Junction) (operand : Parser Expr) : Parser Expr := do
  let start ← here
  let first ← operand
  let others ← repeatStep
    (fun (others : List Expr) => do
      if ← accept word then return some ((← operand) :: others) else return none)
    []
  if others.isEmpty then return first
  else return .chain (← since start) op (first :: others.reverse)

def orTest (go : Levels) : Parser Expr :=
  chainOf "or" .disj (chainOf "and" .conj (notTest go))

def test (go : Levels) : Parser Expr := do
  if ← sees "lambda" then lambdaExpr go
  else
    let start ← here
    let body ← orTest go
    if ← accept "if" then
      let condition ← orTest go
      expect "else"
      let orelse ← go .test
      return .ternary (← since start) condition body orelse
    else
      return body

/-- All levels, given those further inside. -/
def level (go : Levels) : Levels
  | .test => test go
  | .orTest => orTest go
  | .notTest => notTest go
  | .operand => operand go
  | .factor => factor go

def levels : Nat → Levels
  | 0 => fun _ => unexpected
  | fuel + 1 => level (levels fuel)

end Grammar

end BranchCount
