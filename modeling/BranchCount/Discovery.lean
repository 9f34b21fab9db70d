import BranchCount.Counting

/-!
Finding the functions of a module.

Every `def` and `async def` becomes one record, an outer definition before those inside it. The
search keeps the records found so far and, while it is inside a definition, the place of that
definition's record among them, by which it reports definitions that are nested.
-/
namespace BranchCount

structure Nesting where
  inner : String
  line : Nat
  outer : String
deriving Repr, DecidableEq, Inhabited

def Nesting.message (n : Nesting) : String :=
  "Function " ++ n.inner ++ " at line " ++ toString n.line ++ " nested in " ++ n.outer

structure Found where
  records : List FunctionRecord := []
  /-- The place in `records` of the innermost definition around the current statement. -/
  enclosing : Option Nat := none
  nestings : List Nesting := []
deriving Repr, DecidableEq, Inhabited

/-- The record of one definition, whatever stands around it. -/
def Definition.toRecord (d : Definition) (c : Counting) : FunctionRecord :=
  let score := c.definition d
  { name := d.name
    span := c.lines.span d.range.start d.range.stop
    isAsync := d.isAsync
    complexity := score.complexity
    contributions := score.contributions }

namespace Found

def noteNesting (c : Counting) (d : Definition) (found : Found) : Found :=
  match found.enclosing.bind (found.records[·]?) with
  | none => found
  | some outer =>
    let nesting := ⟨d.name, c.lines.line d.range.start, outer.name⟩
    { found with nestings := found.nestings ++ [nesting] }

def enter (c : Counting) (d : Definition) (found : Found) : Found :=
  let found := found.noteNesting c d
  { found with
    records := found.records ++ [d.toRecord c]
    enclosing := some found.records.length }

def leaveTo (found : Found) (outer : Option Nat) : Found :=
  { found with enclosing := outer }

end Found

/-- What a search does when it comes to a statement, and when it leaves it again; there it has the
state from before as well. -/
structure Search (State : Type) where
  arrive : Stmt → State → State
  leave : Stmt → (before after : State) → State

namespace Search

variable {State : Type}

mutual

def inside (search : Search State) : Stmt → State → State
  | .funcDef _ _ _ block _ _, st => search.body block st
  | .asyncFuncDef _ _ _ block _ _, st => search.body block st
  | .classDef _ _ _ _ block _, st => search.body block st
  | .forLoop _ _ _ block orelse, st => search.body orelse (search.body block st)
  | .asyncForLoop _ _ _ block orelse, st => search.body orelse (search.body block st)
  | .whileLoop _ _ block orelse, st => search.body orelse (search.body block st)
  | .conditional _ _ block orelse, st => search.body orelse (search.body block st)
  | .withBlock _ _ block, st => search.body block st
  | .asyncWithBlock _ _ block, st => search.body block st
  | .matchOn _ _ arms, st => search.cases arms st
  | .tryBlock _ block clauses orelse final, st =>
    search.body final (search.body orelse (search.handlers clauses (search.body block st)))
  | .tryStarBlock _ block clauses orelse final, st =>
    search.body final (search.body orelse (search.handlers clauses (search.body block st)))
  | .ret .., st | .delete .., st | .assign .., st | .typeAlias .., st | .augAssign .., st
  | .annAssign .., st | .raise .., st | .assertion .., st | .expr .., st | .inert .., st => st

def body (search : Search State) : List Stmt → State → State
  | [], st => st
  | s :: rest, st =>
    search.body rest (search.leave s st (search.inside s (search.arrive s st)))

def handlers (search : Search State) : List Handler → State → State
  | [], st => st
  | .mk _ _ _ block :: rest, st => search.handlers rest (search.body block st)

def cases (search : Search State) : List MatchCase → State → State
  | [], st => st
  | .mk _ _ block :: rest, st => search.cases rest (search.body block st)

end

def stmt (search : Search State) (s : Stmt) (st : State) : State :=
  search.leave s st (search.inside s (search.arrive s st))

end Search

namespace Discovery

/-- The search for definitions: each is entered, and behind it the search is where it was before. -/
def search (c : Counting) : Search Found where
  arrive s found :=
    match s.definition? with
    | some d => found.enter c d
    | none => found
  leave s before found :=
    match s.definition? with
    | some _ => found.leaveTo before.enclosing
    | none => found

def stmt (c : Counting) : Stmt → Found → Found :=
  (search c).stmt

def body (c : Counting) : List Stmt → Found → Found :=
  (search c).body

end Discovery

def discover (c : Counting) (module : List Stmt) : Found :=
  Discovery.body c module {}

def discoverFunctions (c : Counting) (module : List Stmt) : List FunctionRecord :=
  (discover c module).records

end BranchCount
