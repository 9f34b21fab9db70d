import Mathlib.Data.List.Forall2
import BranchCount.Proofs.Definitions

/-!
What the search knows of the definitions around a statement. Its state holds one place among the
records found so far, which it sets when it goes inside a definition and puts back when it leaves.
Whenever the search comes to a statement, that place is the one of the innermost definition around
it. So every nested definition is reported once, with the name of the definition it is nested in.
-/
namespace BranchCount

/-- A statement with the definitions it stands in, the innermost one first. -/
structure Site where
  stmt : Stmt
  around : List Definition

/-- A statement and all statements inside it, in the order of `Stmt.preorder`. Classes and control
flow are not among the definitions around. -/
def Stmt.sites (around : List Definition) (s : Stmt) : List Site :=
  ⟨s, around⟩ :: s.inner.attach.flatMap fun t => t.1.sites (s.definition?.toList ++ around)
termination_by sizeOf s
decreasing_by exact inner_size t.2

theorem Stmt.sites_eq (around : List Definition) (s : Stmt) :
    s.sites around = ⟨s, around⟩ :: s.inner.flatMap (sites (s.definition?.toList ++ around)) := by
  rw [sites]
  simp

def sites (module : List Stmt) : List Site :=
  module.flatMap (Stmt.sites [])

def Site.nesting? (c : Counting) (site : Site) : Option Nesting :=
  match site.stmt.definition?, site.around with
  | some d, outer :: _ => some ⟨d.name, c.lines.line d.range.start, outer.name⟩
  | _, _ => none

namespace Found

/-- The place that the search holds is that of the innermost definition around. -/
def Inside (c : Counting) (around : List Definition) (found : Found) : Prop :=
  match around with
  | [] => found.enclosing = none
  | d :: _ => ∃ i, found.enclosing = some i ∧
    ∃ bound : i < found.records.length, found.records[i] = d.toRecord c

theorem Inside.of_records {c : Counting} {around : List Definition} {found later : Found}
    (inside : found.Inside c around) (enclosing : later.enclosing = found.enclosing)
    {more : List FunctionRecord} (records : later.records = found.records ++ more) :
    later.Inside c around := by
  cases around with
  | nil => exact enclosing.trans inside
  | cons d rest =>
    obtain ⟨i, slot, bound, record⟩ := inside
    refine ⟨i, enclosing.trans slot, ?_⟩
    -- records are only ever added behind those there are
    rw [← List.getElem?_eq_some_iff, records, List.getElem?_append_left bound]
    exact List.getElem?_eq_some_iff.mpr ⟨bound, record⟩

theorem inside_enter (c : Counting) (d : Definition) (around : List Definition) (found : Found) :
    (found.enter c d).Inside c (d :: around) := by
  refine ⟨found.records.length, ?_, ?_⟩
  · simp [enter]
  · simp

theorem enter_nestings {c : Counting} {d : Definition} {s : Stmt} {around : List Definition}
    {found : Found} (inside : found.Inside c around) (defines : s.definition? = some d) :
    (found.enter c d).nestings = found.nestings ++ [⟨s, around⟩].filterMap (Site.nesting? c) := by
  cases around with
  | nil =>
    have slot : found.enclosing = none := inside
    simp [enter, noteNesting, slot, Site.nesting?]
  | cons outer rest =>
    obtain ⟨i, slot, record⟩ := inside
    rw [← List.getElem?_eq_some_iff] at record
    simp [enter, noteNesting, slot, record, Site.nesting?, defines, Definition.toRecord]

end Found

structure Call where
  stmt : Stmt
  found : Found

/-- The state of a search that writes down each statement it comes to. -/
structure Watch where
  found : Found := {}
  calls : List Call := []

namespace Watch

/-- The search for definitions, which also writes down where it comes to, and in which state. -/
def search (c : Counting) : Search Watch where
  arrive s w := ⟨(Discovery.search c).arrive s w.found, w.calls ++ [⟨s, w.found⟩]⟩
  leave s before w := { w with found := (Discovery.search c).leave s before.found w.found }

/-- Writing down changes nothing else. -/
theorem body_found (c : Counting) (ss : List Stmt) (w : Watch) :
    ((search c).body ss w).found = Discovery.body c ss w.found := by
  refine (search c).body_induction (fun ss w later => later.found = Discovery.body c ss w.found)
    ?nil ?cons ?step ss w
  case nil =>
    intro w
    simp [Discovery.body, Search.body]
  case cons =>
    intro s rest w middle later first second
    have both : Discovery.body c (s :: rest) w.found =
        Discovery.body c rest (Discovery.body c [s] w.found) :=
      (Discovery.search c).body_append [s] rest w.found
    rw [second, first, both]
  case step =>
    intro s w later inner
    have here : Discovery.body c [s] w.found = (Discovery.search c).stmt s w.found := by
      simp [Discovery.body, Search.body, Search.stmt]
    rw [here, Search.stmt_step]
    exact congrArg ((Discovery.search c).leave s w.found) inner

/-- From one state to a later one the search has passed some sites. -/
structure Passes (c : Counting) (around : List Definition) (passed : List Site) (w later : Watch) :
    Prop where
  enclosing : later.found.enclosing = w.found.enclosing
  records : ∃ more, later.found.records = w.found.records ++ more
  calls : w.found.Inside c around → ∃ made, later.calls = w.calls ++ made ∧
    List.Forall₂ (fun call site => call.stmt = site.stmt ∧ call.found.Inside c site.around) made passed
  nestings : w.found.Inside c around →
    later.found.nestings = w.found.nestings ++ passed.filterMap (Site.nesting? c)

namespace Passes

variable {c : Counting} {around : List Definition}

theorem refl (w : Watch) : Passes c around [] w w where
  enclosing := rfl
  records := ⟨[], by simp⟩
  calls _ := ⟨[], by simp, .nil⟩
  nestings _ := by simp

theorem trans {first second : List Site} {w middle later : Watch}
    (before : Passes c around first w middle) (after : Passes c around second middle later) :
    Passes c around (first ++ second) w later := by
  obtain ⟨more, records⟩ := before.records
  have kept (inside : w.found.Inside c around) : middle.found.Inside c around :=
    inside.of_records before.enclosing records
  constructor
  · exact after.enclosing.trans before.enclosing
  · obtain ⟨further, grown⟩ := after.records
    exact ⟨more ++ further, by rw [grown, records, List.append_assoc]⟩
  · intro inside
    obtain ⟨made, log, right⟩ := before.calls inside
    obtain ⟨others, longer, alright⟩ := after.calls (kept inside)
    exact ⟨made ++ others, by rw [longer, log, List.append_assoc], List.rel_append right alright⟩
  · intro inside
    rw [after.nestings (kept inside), before.nestings inside, List.append_assoc,
      List.filterMap_append]

theorem arrive {s : Stmt} (other : s.definition? = none) (w : Watch) :
    Passes c around [⟨s, around⟩] w ((search c).arrive s w) where
  enclosing := by simp [search, Discovery.search, other]
  records := ⟨[], by simp [search, Discovery.search, other]⟩
  calls inside := ⟨[⟨s, w.found⟩], rfl, .cons ⟨rfl, inside⟩ .nil⟩
  nestings _ := by simp [search, Discovery.search, Site.nesting?, other]

/-- Inside a definition that definition is the innermost one; on leaving the place is put back. -/
theorem definition {s : Stmt} {d : Definition} (defines : s.definition? = some d) {w later : Watch}
    {passed : List Site} (inner : Passes c (d :: around) passed ((search c).arrive s w) later) :
    Passes c around (⟨s, around⟩ :: passed) w ((search c).leave s w later) := by
  have entered := Found.inside_enter c d around w.found
  have found : ((search c).arrive s w).found = w.found.enter c d := by
    simp [search, Discovery.search, defines]
  have left : ((search c).leave s w later).found = later.found.leaveTo w.found.enclosing := by
    simp [search, Discovery.search, defines]
  obtain ⟨-, records, calls, nestings⟩ := inner
  rw [found] at records calls nestings
  constructor
  · rw [left]
    rfl
  · obtain ⟨more, records⟩ := records
    refine ⟨d.toRecord c :: more, ?_⟩
    rw [left]
    simpa using records
  · intro inside
    obtain ⟨made, log, right⟩ := calls entered
    refine ⟨⟨s, w.found⟩ :: made, ?_, .cons ⟨rfl, inside⟩ right⟩
    simpa [search] using log
  · intro inside
    have reports := nestings entered
    rw [Found.enter_nestings inside defines, List.append_assoc, ← List.filterMap_append] at reports
    rw [left]
    exact reports

end Passes

theorem body_passes (c : Counting) (ss : List Stmt) (around : List Definition) (w : Watch) :
    Passes c around (ss.flatMap (Stmt.sites around)) w ((search c).body ss w) := by
  refine (search c).body_induction (fun ss w later => ∀ around,
    Passes c around (ss.flatMap (Stmt.sites around)) w later) ?nil ?cons ?step ss w around
  case nil => exact fun w around => .refl w
  case cons =>
    intro s rest w middle later first second around
    rw [List.flatMap_cons]
    have head := first around
    rw [List.flatMap_singleton] at head
    exact head.trans (second around)
  case step =>
    intro s w later inner around
    rw [List.flatMap_singleton, Stmt.sites_eq]
    cases defines : s.definition? with
    | none =>
      have same : (search c).leave s w later = later := by
        simp [search, Discovery.search, defines]
      rw [same]
      exact (Passes.arrive defines w).trans (inner around)
    | some d => exact Passes.definition defines (inner (d :: around))

end Watch

def watch (c : Counting) (module : List Stmt) : Watch :=
  (Watch.search c).body module {}

theorem Discovery.body_enclosing (c : Counting) (ss : List Stmt) (found : Found) :
    (Discovery.body c ss found).enclosing = found.enclosing := by
  have watched := (Watch.body_passes c ss [] ⟨found, []⟩).enclosing
  rwa [Watch.body_found] at watched

/-- The search comes to every statement of a module once, an outer one before those in it. Each
time, the place it holds is empty if the statement is in no definition, and else that of the record
of the innermost one. After a statement or a block it holds what it held before. It reports exactly
the nested definitions, in the same order. -/
theorem discover_enclosing (c : Counting) (module : List Stmt) :
    (watch c module).found = discover c module ∧
    List.Forall₂ (fun call site => call.stmt = site.stmt ∧
      call.found.Inside c site.around) (watch c module).calls (sites module) ∧
    (∀ s found, (Discovery.stmt c s found).enclosing = found.enclosing) ∧
    (∀ ss found, (Discovery.body c ss found).enclosing = found.enclosing) ∧
    (discover c module).nestings.map Nesting.message = (sites module).filterMap fun site =>
      match site.stmt.definition?, site.around with
      | some d, outer :: _ => some ("Function " ++ d.name ++ " at line " ++
          toString (c.lines.line d.range.start) ++ " nested in " ++ outer.name)
      | _, _ => none := by
  have same : (watch c module).found = discover c module := Watch.body_found c module {}
  have run := Watch.body_passes c module [] {}
  refine ⟨same, ?calls, ?statement, Discovery.body_enclosing c, ?messages⟩
  case calls =>
    obtain ⟨made, log, right⟩ := run.calls rfl
    have all : (watch c module).calls = made := log
    rw [all]
    exact right
  case statement =>
    intro s found
    have alone := Discovery.body_enclosing c [s] found
    simpa [Discovery.body, Discovery.stmt, Search.body, Search.stmt] using alone
  case messages =>
    have reports : (discover c module).nestings = (sites module).filterMap (Site.nesting? c) := by
      rw [← same]
      exact run.nestings rfl
    rw [reports, List.map_filterMap]
    apply List.filterMap_congr
    rintro ⟨s, around⟩ -
    simp only [Site.nesting?]
    split <;> rfl

end BranchCount
