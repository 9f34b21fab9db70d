import BranchCount.Grammar.Pattern

/-!
Parsing statements and modules.

A block is either the rest of a line or lines of their own, indented. Compound statements are
functions of a parser for the blocks inside them, which is the whole grammar again with less fuel.
-/
namespace BranchCount.Grammar

open BranchCount.Parser

structure Inner where
  exprs : Levels
  pattern : Parser Pattern
  block : Parser (List Stmt)

def endOf (start : Nat) (body : List Stmt) : Nat :=
  match body.getLast? with
  | some s => s.range.stop
  | none => start

/-! Simple statements -/

def testListOrYield (go : Levels) : Parser Expr := do
  if ← sees "yield" then yieldExpr go else testList go

def augmentedOperators : List String :=
  ["+=", "-=", "*=", "@=", "/=", "%=", "&=", "|=", "^=", "<<=", ">>=", "**=", "//="]

def assignedValues (go : Levels) : Parser (List Expr) := do
  let found ← repeatStep
    (fun (values : List Expr) => do
      if ← accept "=" then return some ((← testListOrYield go) :: values) else return none)
    []
  return found.reverse

/-- An expression, an assignment, or a target with an annotation. Only a single expression can be
annotated. -/
def expressionStmt (go : Levels) : Parser Stmt := do
  let start ← here
  let starred ← sees "*"
  let items ← someItems Token.startsItem (testOrStar go)
  let target ← tupleOf start items
  if ← acceptIf (items.1.length = 1 && !items.2 && !starred) ":" then
    let hint ← go .test
    let value ← if ← accept "=" then pure (some (← testListOrYield go)) else pure none
    return .annAssign (← since start) target hint value
  else if ← seesOneOf augmentedOperators then
    advance
    let value ← testListOrYield go
    return .augAssign (← since start) target value
  else
    let values ← assignedValues go
    match values.getLast? with
    | none => return .expr (← since start) target
    | some value => return .assign (← since start) (target :: values.dropLast) value

def raiseStmt (go : Levels) : Parser Stmt := do
  let start ← here
  advance
  let exception ← testIfAny go
  let cause ←
    if ← acceptIf exception.isSome "from" then pure (some (← go .test)) else pure none
  return .raise (← since start) exception cause

def assertStmt (go : Levels) : Parser Stmt := do
  let start ← here
  advance
  let condition ← go .test
  let message ← if ← accept "," then pure (some (← go .test)) else pure none
  return .assertion (← since start) condition message

def dottedName : Parser Unit := do
  let _ ← name
  repeatStep
    (fun (_ : Unit) => do
      if ← accept "." then
        let _ ← name
        return some ()
      else
        return none)
    ()

def importAlias (source : Parser Unit) : Parser Unit := do
  source
  if ← accept "as" then let _ ← name

/-- One item or more with commas between them and none behind the last. -/
def separated (item : Parser Unit) : Parser Unit := do
  item
  repeatStep
    (fun (_ : Unit) => do
      if ← accept "," then
        item
        return some ()
      else
        return none)
    ()

def plainName : Parser Unit := do
  let _ ← name

def importStmt : Parser Stmt := do
  let start ← here
  advance
  separated (importAlias dottedName)
  return .inert (← since start) .imports

/-- Dots in front of the source of an import; tells whether there were any. -/
def leadingDots : Parser Bool :=
  repeatStep
    (fun (_ : Bool) => do
      if ← seesOneOf [".", "..."] then
        advance
        return some true
      else
        return none)
    false

def fromStmt : Parser Stmt := do
  let start ← here
  advance
  let dots ← leadingDots
  unless dots && (← sees "import") do dottedName
  expect "import"
  if ← accept "*" then pure ()
  else if ← accept "(" then
    let _ ← someItems (fun t => isName (some t)) (importAlias plainName)
    expect ")"
  else separated (importAlias plainName)
  return .inert (← since start) .imports

def namesStmt (form : Inert) : Parser Stmt := do
  let start ← here
  advance
  separated plainName
  return .inert (← since start) form

def wordStmt (form : Inert) : Parser Stmt := do
  let start ← here
  advance
  return .inert (← since start) form

def typeParam (go : Levels) : Parser Unit := do
  if ← seesOneOf ["*", "**"] then
    advance
    plainName
  else
    plainName
    if ← accept ":" then let _ ← go .test

def typeParams (go : Levels) : Parser Unit := do
  if ← accept "[" then
    let starts := fun (t : Token) => isName (some t) || t.isFixed "*" || t.isFixed "**"
    let _ ← someItems starts (typeParam go)
    expect "]"

def typeStmt (go : Levels) : Parser Stmt := do
  let start ← here
  advance
  let place ← here
  plainName
  let alias_ := Expr.name (← since place)
  typeParams go
  expect "="
  let value ← go .test
  return .typeAlias (← since start) alias_ value

def deleteStmt (go : Levels) : Parser Stmt := do
  let start ← here
  advance
  let starts := fun (t : Token) => t.startsOperand || t.isFixed "*"
  let (targets, _) ← someItems starts (operandOrStar go)
  return .delete (← since start) targets

def returnStmt (go : Levels) : Parser Stmt := do
  let start ← here
  advance
  let value ←
    if (← peek?).any Token.startsItem then pure (some (← testList go)) else pure none
  return .ret (← since start) value

def smallStmt (go : Levels) : Parser Stmt := do
  let start ← here
  match ← peek? with
  | some (.fixed "pass") => wordStmt .pass
  | some (.fixed "break") => wordStmt .leave
  | some (.fixed "continue") => wordStmt .next
  | some (.fixed "del") => deleteStmt go
  | some (.fixed "return") => returnStmt go
  | some (.fixed "raise") => raiseStmt go
  | some (.fixed "import") => importStmt
  | some (.fixed "from") => fromStmt
  | some (.fixed "global") => namesStmt .global
  | some (.fixed "nonlocal") => namesStmt .nonlocal
  | some (.fixed "assert") => assertStmt go
  | some (.fixed "type") => typeStmt go
  | some (.fixed "yield") =>
    let value ← yieldExpr go
    return .expr (← since start) value
  | _ => expressionStmt go

def simpleLine (go : Levels) : Parser (List Stmt) := do
  let (stmts, _) ← repeatStep
    (fun (state : List Stmt × Bool) => do
      let (stmts, more) := state
      if !more then return none
      else
        match stmts, ← peek? with
        | _ :: _, some .newline => return none
        | stmts, _ =>
          let s ← smallStmt go
          return some (s :: stmts, ← accept ";"))
    ([], true)
  newline
  return stmts.reverse

/-! Compound statements -/

def elseBlock (inner : Inner) : Parser (List Stmt) := do
  if ← accept "else" then
    expect ":"
    inner.block
  else
    return []

def branch (inner : Inner) : Parser (Nat × Expr × List Stmt) := do
  let start ← here
  advance
  let condition ← namedTest inner.exprs
  expect ":"
  return (start, condition, ← inner.block)

/-- Conditionals nested in each other's `else`; all of them end where the last one does. -/
def nestBranches (stop : Nat) (orelse : List Stmt) :
    List (Nat × Expr × List Stmt) → List Stmt
  | [] => orelse
  | (start, condition, body) :: rest =>
    [.conditional ⟨start, stop⟩ condition body (nestBranches stop orelse rest)]

def ifStmt (inner : Inner) : Parser Stmt := do
  let (start, condition, body) ← branch inner
  let branches ← repeatStep
    (fun (branches : List (Nat × Expr × List Stmt)) => do
      if ← sees "elif" then return some ((← branch inner) :: branches) else return none)
    []
  let orelse ← elseBlock inner
  let lastBody := match branches with
    | (_, _, last) :: _ => last
    | [] => body
  let stop := endOf start (if orelse.isEmpty then lastBody else orelse)
  return .conditional ⟨start, stop⟩ condition body (nestBranches stop orelse branches.reverse)

def whileStmt (inner : Inner) : Parser Stmt := do
  let (start, condition, body) ← branch inner
  let orelse ← elseBlock inner
  return .whileLoop ⟨start, endOf start (if orelse.isEmpty then body else orelse)⟩ condition body
    orelse

def forStmt (inner : Inner) (start : Nat) (isAsync : Bool) : Parser Stmt := do
  expect "for"
  let target ← operandList inner.exprs
  expect "in"
  let source ← testList inner.exprs
  expect ":"
  let body ← inner.block
  let orelse ← elseBlock inner
  let stop := endOf start (if orelse.isEmpty then body else orelse)
  return (if isAsync then Stmt.asyncForLoop else .forLoop) ⟨start, stop⟩ target source body orelse

def handlerTail (inner : Inner) (start : Nat) (type : Option Expr) : Parser Handler := do
  let bound ← if ← acceptIf type.isSome "as" then pure (some (← name)) else pure none
  expect ":"
  let body ← inner.block
  return .mk ⟨start, endOf start body⟩ type bound body

def plainHandler (inner : Inner) : Parser Handler := do
  let start ← here
  advance
  handlerTail inner start (← testIfAny inner.exprs)

def starHandler (inner : Inner) : Parser Handler := do
  let start ← here
  advance
  expect "*"
  handlerTail inner start (some (← inner.exprs .test))

/-- Handlers are all of one form, which the first one sets. -/
def handlers (inner : Inner) (star : Bool) : Parser (List Handler) := do
  let found ← repeatStep
    (fun (found : List Handler) => do
      if ← sees "except" then
        let handler ← if star then starHandler inner else plainHandler inner
        return some (handler :: found)
      else
        return none)
    []
  return found.reverse

def Handler.body : Handler → List Stmt
  | .mk _ _ _ body => body

def tryStmt (inner : Inner) : Parser Stmt := do
  let start ← here
  advance
  expect ":"
  let body ← inner.block
  let star := (← sees "except") && (← seesSecond "*")
  let found ← handlers inner star
  let orelse ← if found.isEmpty then pure [] else elseBlock inner
  let final ←
    if found.isEmpty || (← sees "finally") then do
      expect "finally"
      expect ":"
      inner.block
    else
      pure []
  let lastBody :=
    if !final.isEmpty then final
    else if !orelse.isEmpty then orelse
    else (found.getLast?.map Handler.body).getD body
  return (if star then Stmt.tryStarBlock else .tryBlock) ⟨start, endOf start lastBody⟩ body found
    orelse final

def withItem (go : Levels) : Parser WithItem := do
  let context ← go .test
  if ← accept "as" then return ⟨context, some (← go .operand)⟩ else return ⟨context, none⟩

/-- Items in parentheses up to the first that is bound to something, in front of that `as`. -/
def boundPrefix (go : Levels) : Parser (List Expr) := do
  expect "("
  let (found, _) ← repeatStep
    (fun (state : List Expr × Bool) => do
      let (found, more) := state
      if !more then return none
      else return some ((← go .test) :: found, ← accept ","))
    ([], true)
  unless ← sees "as" do unexpected
  return found.reverse

/-- The rest of items in parentheses, from the first `as` on. -/
def boundItems (go : Levels) (found : List Expr) : Parser (List WithItem) := do
  advance
  let target ← go .operand
  let plain := found.dropLast.map fun e => (⟨e, none⟩ : WithItem)
  let bound := (found.getLast?.map fun e => (⟨e, some target⟩ : WithItem)).toList
  let (items, _) ← moreItems Token.startsExpr (withItem go) ⟨.constant default, none⟩
  expect ")"
  unless ← sees ":" do unexpected
  return plain ++ bound ++ items.drop 1

/-- The items of a `with`. In parentheses they may be bound one by one; if none is, the parentheses
belong to an expression. -/
def withItems (go : Levels) : Parser (List WithItem) := do
  let c ← get
  if ← sees "(" then
    match (boundPrefix go).run c with
    | .ok (found, after) =>
      set after
      return ← boundItems go found
    | .error _ => pure ()
  let first ← withItem go
  let others ← repeatStep
    (fun (others : List WithItem) => do
      if ← accept "," then return some ((← withItem go) :: others) else return none)
    []
  return first :: others.reverse

def withStmt (inner : Inner) (start : Nat) (isAsync : Bool) : Parser Stmt := do
  expect "with"
  let items ← withItems inner.exprs
  expect ":"
  let body ← inner.block
  return (if isAsync then Stmt.asyncWithBlock else .withBlock) ⟨start, endOf start body⟩ items body

def funcStmt (inner : Inner) (start : Nat) (isAsync : Bool) (decorators : List Expr) :
    Parser Stmt := do
  expect "def"
  let funcName ← name
  typeParams inner.exprs
  expect "("
  let found ← paramList inner.exprs true
  unless ← sees ")" do unexpected
  checkParams found
  advance
  unless ← seesOneOf ["->", ":"] do unexpected
  match duplicate? found.params with
  | some p => failAt (.duplicateParameter p.name) p.start
  | none => pure ()
  let returns ← if ← accept "->" then pure (some (← inner.exprs .test)) else pure none
  expect ":"
  let body ← inner.block
  return (if isAsync then Stmt.asyncFuncDef else .funcDef) ⟨start, endOf start body⟩ funcName
    (found.params.map FoundParam.toParam) body decorators returns

def classStmt (inner : Inner) (start : Nat) (decorators : List Expr) : Parser Stmt := do
  expect "class"
  let className ← name
  typeParams inner.exprs
  let found ← if ← accept "(" then arguments inner.exprs else pure {}
  expect ":"
  let body ← inner.block
  return .classDef ⟨start, endOf start body⟩ className found.args found.keywords body decorators

def decorated (inner : Inner) : Parser Stmt := do
  let found ← repeatStep
    (fun (found : List Expr) => do
      if ← accept "@" then
        let value ← namedTest inner.exprs
        newline
        return some (value :: found)
      else
        return none)
    []
  let decorators := found.reverse
  let start ← here
  if ← sees "class" then classStmt inner start decorators
  else
    let isAsync ← accept "async"
    funcStmt inner start isAsync decorators

def asyncStmt (inner : Inner) : Parser Stmt := do
  let start ← here
  advance
  if ← sees "for" then forStmt inner start true
  else if ← sees "with" then withStmt inner start true
  else funcStmt inner start true []

def matchCase (inner : Inner) : Parser MatchCase := do
  expect "case"
  let pattern ← patterns inner.pattern
  let guard ← if ← accept "if" then pure (some (← namedTest inner.exprs)) else pure none
  expect ":"
  return .mk pattern guard (← inner.block)

def MatchCase.body : MatchCase → List Stmt
  | .mk _ _ body => body

def matchStmt (inner : Inner) : Parser Stmt := do
  let start ← here
  advance
  let place ← here
  let subject ← tupleOf place (← someItems Token.startsItem (namedOrStar inner.exprs))
  expect ":"
  newline
  indent
  let first ← matchCase inner
  let others ← repeatStep
    (fun (others : List MatchCase) => do
      if ← sees "case" then return some ((← matchCase inner) :: others) else return none)
    []
  dedent
  let cases := first :: others.reverse
  let stop := endOf start (MatchCase.body ((others.head?).getD first))
  return .matchOn ⟨start, stop⟩ subject cases

def compoundStmt? (inner : Inner) : Parser (Option Stmt) := do
  let start ← here
  match ← peek? with
  | some (.fixed "if") => some <$> ifStmt inner
  | some (.fixed "while") => some <$> whileStmt inner
  | some (.fixed "for") => some <$> forStmt inner start false
  | some (.fixed "try") => some <$> tryStmt inner
  | some (.fixed "with") => some <$> withStmt inner start false
  | some (.fixed "def") => some <$> funcStmt inner start false []
  | some (.fixed "class") => some <$> classStmt inner start []
  | some (.fixed "@") => some <$> decorated inner
  | some (.fixed "async") => some <$> asyncStmt inner
  | some (.fixed "match") => some <$> matchStmt inner
  | _ => return none

def statements (inner : Inner) : Parser (List Stmt) := do
  match ← compoundStmt? inner with
  | some s => return [s]
  | none => simpleLine inner.exprs

/-- The indented lines of a block, up to and with the end of the indentation. -/
def indentedLines (inner : Inner) : Parser (List Stmt) := do
  let first ← statements inner
  let found ← repeatStep
    (fun (found : List (List Stmt)) => do
      match ← peek? with
      | some .dedent => return none
      | _ => return some ((← statements inner) :: found))
    [first]
  dedent
  return found.reverse.flatten

def blockStep (inner : Inner) : Parser (List Stmt) := do
  match ← peek? with
  | some .newline =>
    advance
    indent
    indentedLines inner
  | _ => simpleLine inner.exprs

def block (go : Levels) (pattern : Parser Pattern) : Nat → Parser (List Stmt)
  | 0 => unexpected
  | fuel + 1 => blockStep ⟨go, pattern, block go pattern fuel⟩

/-- The statements of a whole module; between them lines may be empty. -/
def moduleBody (inner : Inner) : Parser (List Stmt) := do
  let found ← repeatStep
    (fun (found : List (List Stmt)) => do
      match ← peek? with
      | none => return none
      | some .newline =>
        advance
        return some found
      | some _ => return some ((← statements inner) :: found))
    []
  return found.reverse.flatten

end Grammar

def parseModule (text : String) : Except SourceError (List Stmt) :=
  let chars := text.toList
  let fuel := chars.length + 2
  let go := Grammar.levels fuel
  let pattern := Grammar.pattern go fuel
  let inner : Grammar.Inner := ⟨go, pattern, Grammar.block go pattern fuel⟩
  let stream := tokenize 0 chars
  let cursor := Cursor.ofTokens (settleKeywords true stream.lexemes) stream.ending
  ((Grammar.moduleBody inner).run cursor).map (·.1)

end BranchCount
