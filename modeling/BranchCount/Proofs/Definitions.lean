import BranchCount.Discovery

/-!
Which definitions a module has. The statements of a module are listed in depth-first order without
any search state, and discovery is shown to give one record for each definition in that list, made
from the definition alone.
-/
namespace BranchCount

def Handler.body : Handler → List Stmt
  | .mk _ _ _ body => body

def MatchCase.body : MatchCase → List Stmt
  | .mk _ _ body => body

namespace Stmt

/-- The statements directly inside a statement, block by block in the order of the text. -/
def inner : Stmt → List Stmt
  | .funcDef _ _ _ body _ _ => body
  | .asyncFuncDef _ _ _ body _ _ => body
  | .classDef _ _ _ _ body _ => body
  | .forLoop _ _ _ body orelse => body ++ orelse
  | .asyncForLoop _ _ _ body orelse => body ++ orelse
  | .whileLoop _ _ body orelse => body ++ orelse
  | .conditional _ _ body orelse => body ++ orelse
  | .withBlock _ _ body => body
  | .asyncWithBlock _ _ body => body
  | .matchOn _ _ cases => cases.flatMap MatchCase.body
  | .tryBlock _ body handlers orelse final =>
    body ++ handlers.flatMap Handler.body ++ orelse ++ final
  | .tryStarBlock _ body handlers orelse final =>
    body ++ handlers.flatMap Handler.body ++ orelse ++ final
  | _ => []

theorem handlers_size {t : Stmt} {handlers : List Handler} (h : t ∈ handlers.flatMap Handler.body) :
    sizeOf t < sizeOf handlers := by
  obtain ⟨⟨range, type, name, body⟩, hh, ht⟩ := List.mem_flatMap.mp h
  have outer := List.sizeOf_lt_of_mem hh
  have inside := List.sizeOf_lt_of_mem ht
  simp only [Handler.mk.sizeOf_spec, Handler.body] at outer inside
  omega

theorem cases_size {t : Stmt} {cases : List MatchCase} (h : t ∈ cases.flatMap MatchCase.body) :
    sizeOf t < sizeOf cases := by
  obtain ⟨⟨pattern, guard, body⟩, hc, ht⟩ := List.mem_flatMap.mp h
  have outer := List.sizeOf_lt_of_mem hc
  have inside := List.sizeOf_lt_of_mem ht
  simp only [MatchCase.mk.sizeOf_spec, MatchCase.body] at outer inside
  omega

theorem inner_size {s t : Stmt} (h : t ∈ s.inner) : sizeOf t < sizeOf s := by
  have block : ∀ {ss : List Stmt}, t ∈ ss → sizeOf t < sizeOf ss := List.sizeOf_lt_of_mem
  have handlers := @handlers_size t
  have cases := @cases_size t
  cases s <;> simp only [inner, List.mem_append, List.not_mem_nil] at h <;> simp <;> grind

/-- What holds of a statement whenever it holds of those directly inside it holds of all. -/
theorem induction {motive : Stmt → Prop} (step : ∀ s, (∀ t ∈ s.inner, motive t) → motive s)
    (s : Stmt) : motive s :=
  step s fun t _ => induction step t
termination_by sizeOf s
decreasing_by exact inner_size ‹_›

/-- A statement and all statements inside it, an outer one before those in it. -/
def preorder (s : Stmt) : List Stmt :=
  s :: s.inner.attach.flatMap fun t => t.1.preorder
termination_by sizeOf s
decreasing_by exact inner_size t.2

theorem preorder_eq (s : Stmt) : s.preorder = s :: s.inner.flatMap preorder := by
  rw [preorder]
  simp

end Stmt

/-- The definitions that stand anywhere in some statements, in the order of the walk. -/
def definitions (body : List Stmt) : List Definition :=
  (body.flatMap Stmt.preorder).filterMap Stmt.definition?

@[simp] theorem definitions_nil : definitions [] = [] := rfl

theorem definitions_append (xs ys : List Stmt) :
    definitions (xs ++ ys) = definitions xs ++ definitions ys := by
  simp [definitions]

theorem definitions_flatMap {α : Type} (xs : List α) (blocks : α → List Stmt) :
    definitions (xs.flatMap blocks) = xs.flatMap fun x => definitions (blocks x) := by
  induction xs with
  | nil => rfl
  | cons x rest ih => rw [List.flatMap_cons, definitions_append, ih, List.flatMap_cons]

theorem definitions_cons (s : Stmt) (rest : List Stmt) :
    definitions (s :: rest) = s.definition?.toList ++ definitions s.inner ++ definitions rest := by
  have here : definitions [s] = s.definition?.toList ++ definitions s.inner := by
    rw [definitions, List.flatMap_singleton, Stmt.preorder_eq, List.filterMap_cons]
    cases s.definition? with
    | none => rfl
    | some d => rfl
  rw [← List.singleton_append, definitions_append, here]

namespace Found

@[simp] theorem noteNesting_records (c : Counting) (d : Definition) (found : Found) :
    (found.noteNesting c d).records = found.records := by
  unfold noteNesting
  split
  · rfl
  · rfl

@[simp] theorem enter_records (c : Counting) (d : Definition) (found : Found) :
    (found.enter c d).records = found.records ++ [d.toRecord c] := by
  simp [enter]

@[simp] theorem leaveTo_records (found : Found) (outer : Option Nat) :
    (found.leaveTo outer).records = found.records := rfl

end Found

namespace Search

variable {State : Type} (search : Search State)

theorem body_cons (s : Stmt) (rest : List Stmt) (st : State) :
    search.body (s :: rest) st = search.body rest (search.stmt s st) := by
  rw [body, stmt]

theorem body_append (xs ys : List Stmt) (st : State) :
    search.body (xs ++ ys) st = search.body ys (search.body xs st) := by
  induction xs generalizing st with
  | nil => simp [body]
  | cons s rest ih => simp only [List.cons_append, body, ih]

theorem handlers_body (hs : List Handler) (st : State) :
    search.handlers hs st = search.body (hs.flatMap Handler.body) st := by
  induction hs generalizing st with
  | nil => simp [handlers, body]
  | cons h rest ih =>
    obtain ⟨range, type, name, block⟩ := h
    rw [handlers, ih, List.flatMap_cons, body_append, Handler.body]

theorem cases_body (arms : List MatchCase) (st : State) :
    search.cases arms st = search.body (arms.flatMap MatchCase.body) st := by
  induction arms generalizing st with
  | nil => simp [cases, body]
  | cons arm rest ih =>
    obtain ⟨pattern, guard, block⟩ := arm
    rw [cases, ih, List.flatMap_cons, body_append, MatchCase.body]

/-- All that a search does at one statement. -/
theorem stmt_step (s : Stmt) (st : State) :
    search.stmt s st = search.leave s st (search.body s.inner (search.arrive s st)) := by
  cases s <;> simp [stmt, inside, Stmt.inner, body, body_append, handlers_body, cases_body]

/-- What one statement does to the state if those inside it do it, and one statement after another,
the whole search does. -/
theorem body_induction (effect : List Stmt → State → State → Prop)
    (nil : ∀ st, effect [] st st)
    (cons : ∀ s rest st middle later, effect [s] st middle → effect rest middle later →
      effect (s :: rest) st later)
    (step : ∀ s st later, effect s.inner (search.arrive s st) later →
      effect [s] st (search.leave s st later))
    (ss : List Stmt) (st : State) : effect ss st (search.body ss st) := by
  have run : ∀ (ss : List Stmt), (∀ s ∈ ss, ∀ st, effect [s] st (search.stmt s st)) →
      ∀ st, effect ss st (search.body ss st) := by
    intro ss known
    induction ss with
    | nil =>
      intro st
      rw [body]
      exact nil st
    | cons s rest ih =>
      intro st
      rw [body_cons]
      have head := known s List.mem_cons_self st
      have tail := ih (fun t member => known t (List.mem_cons_of_mem s member)) (search.stmt s st)
      exact cons s rest st _ _ head tail
  have each (s : Stmt) : ∀ st, effect [s] st (search.stmt s st) := by
    induction s using Stmt.induction with
    | step s ih =>
      intro st
      rw [stmt_step]
      exact step s st _ (run s.inner ih (search.arrive s st))
  exact run ss (fun s _ => each s) st

end Search

theorem Discovery.body_records (c : Counting) (ss : List Stmt) (found : Found) :
    (Discovery.body c ss found).records =
      found.records ++ (definitions ss).map fun d => d.toRecord c := by
  refine (search c).body_induction (fun ss found later => later.records =
    found.records ++ (definitions ss).map fun d => d.toRecord c) ?nil ?cons ?step ss found
  case nil => simp
  case cons =>
    intro s rest found middle later first second
    have both : definitions (s :: rest) = definitions [s] ++ definitions rest :=
      definitions_append [s] rest
    rw [second, first, both, List.map_append, List.append_assoc]
  case step =>
    intro s found later inner
    rw [definitions_cons]
    cases defines : s.definition? with
    | none => simpa [search, defines] using inner
    | some d => simpa [search, defines] using inner

theorem discover_records (c : Counting) (module : List Stmt) :
    discoverFunctions c module = (definitions module).map fun d => d.toRecord c := by
  rw [discoverFunctions, discover, Discovery.body_records]
  simp

/-- Discovery lists every definition once, an outer one before those inside it, and makes each
record from the definition alone. A search that has already found something adds the very same
records. -/
theorem discoverFunctions_preorder (c : Counting) (module : List Stmt) :
    discoverFunctions c module = (definitions module).map (fun d => d.toRecord c) ∧
    ∀ found : Found,
      (Discovery.body c module found).records = found.records ++ discoverFunctions c module := by
  refine ⟨discover_records c module, ?_⟩
  intro found
  rw [Discovery.body_records, discover_records]

end BranchCount
