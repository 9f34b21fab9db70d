import Mathlib.Data.List.Chain
import BranchCount.Proofs.Definitions
import BranchCount.Proofs.Positions
import BranchCount.Rules.Preset

/-!
The order of records. If every statement spans those inside it and siblings follow one another, as
they do in the tree of a text, then records come out in the order in which their definitions start,
and any two spans are nested or apart. The order in which discovery goes through the blocks of a
statement is what matters.
-/
namespace BranchCount

namespace Stmt

/-- Each statement ends before the next one starts. -/
def InOrder (ss : List Stmt) : Prop :=
  ss.IsChain fun s t => s.range.stop ≤ t.range.start

/-- A statement spans something, and the statements directly inside it lie in its range, behind its
start and in order. -/
structure Spans (s : Stmt) : Prop where
  nonempty : s.range.start < s.range.stop
  within : ∀ t ∈ s.inner, s.range.start < t.range.start ∧ t.range.stop ≤ s.range.stop
  inOrder : InOrder s.inner

end Stmt

/-- The ranges of the statements of a module, at any depth, are those of a text. -/
structure WellPlaced (module : List Stmt) : Prop where
  inOrder : Stmt.InOrder module
  spans : ∀ s ∈ module.flatMap Stmt.preorder, s.Spans

namespace Stmt

/-- A chain is enough, because no statement is empty. -/
theorem inOrder_pairwise {ss : List Stmt} (ordered : InOrder ss)
    (nonempty : ∀ s ∈ ss, s.range.start < s.range.stop) :
    ss.Pairwise fun s t => s.range.stop ≤ t.range.start := by
  induction ss with
  | nil => exact .nil
  | cons s rest ih =>
    have tail := ih ordered.tail fun t ht => nonempty t (List.mem_cons_of_mem s ht)
    refine .cons ?_ tail
    cases rest with
    | nil => simp
    | cons next rest =>
      have step : s.range.stop ≤ next.range.start := (List.isChain_cons_cons.mp ordered).1
      have here := nonempty next (by simp)
      intro t member
      rcases List.mem_cons.mp member with rfl | later
      · exact step
      · have after := List.rel_of_pairwise_cons tail later
        omega

theorem mem_preorder_self (s : Stmt) : s ∈ s.preorder := by
  rw [preorder_eq]
  exact List.mem_cons_self

theorem spans_inner {s t : Stmt} (spans : ∀ u ∈ s.preorder, u.Spans) (inside : t ∈ s.inner) :
    ∀ u ∈ t.preorder, u.Spans := by
  intro u member
  apply spans u
  rw [preorder_eq]
  exact List.mem_cons_of_mem s (List.mem_flatMap.mpr ⟨t, inside, member⟩)

theorem preorder_within {s : Stmt} (spans : ∀ u ∈ s.preorder, u.Spans) :
    ∀ t ∈ s.preorder, s.range.start ≤ t.range.start ∧ t.range.stop ≤ s.range.stop := by
  induction s using Stmt.induction with
  | step s ih =>
    intro t member
    rw [preorder_eq] at member
    rcases List.mem_cons.mp member with rfl | below
    · exact ⟨Nat.le_refl _, Nat.le_refl _⟩
    · obtain ⟨u, inside, deeper⟩ := List.mem_flatMap.mp below
      have outer := (spans s s.mem_preorder_self).within u inside
      have inner := ih u inside (spans_inner spans inside) t deeper
      omega

/-- The first starts before the second, and holds it or ends before it. -/
def Precedes (s t : Stmt) : Prop :=
  s.range.start < t.range.start ∧
    (t.range.stop ≤ s.range.stop ∨ s.range.stop ≤ t.range.start)

/-- Statements in order, each with all that is inside it. -/
theorem preorders_pairwise {ss : List Stmt} (ordered : InOrder ss)
    (spans : ∀ s ∈ ss, ∀ u ∈ s.preorder, u.Spans)
    (each : ∀ s ∈ ss, s.preorder.Pairwise Precedes) :
    (ss.flatMap preorder).Pairwise Precedes := by
  have nonempty (s : Stmt) (member : s ∈ ss) : s.range.start < s.range.stop :=
    (spans s member s s.mem_preorder_self).nonempty
  rw [List.pairwise_flatMap]
  refine ⟨each, ?_⟩
  apply (inOrder_pairwise ordered nonempty).imp_of_mem
  intro s t hs ht apart x hx y hy
  have left := preorder_within (spans s hs) x hx
  have right := preorder_within (spans t ht) y hy
  have some := (spans s hs x hx).nonempty
  rw [Precedes]
  omega

theorem preorder_pairwise {s : Stmt} (spans : ∀ u ∈ s.preorder, u.Spans) :
    s.preorder.Pairwise Precedes := by
  induction s using Stmt.induction with
  | step s ih =>
    have here := spans s s.mem_preorder_self
    have inner (t : Stmt) (inside : t ∈ s.inner) := spans_inner spans inside
    rw [preorder_eq, List.pairwise_cons]
    refine ⟨?_, preorders_pairwise here.inOrder inner fun t inside => ih t inside (inner t inside)⟩
    intro t below
    obtain ⟨u, inside, deeper⟩ := List.mem_flatMap.mp below
    have outer := here.within u inside
    have nested := preorder_within (inner u inside) t deeper
    rw [Precedes]
    omega

theorem definition?_range {s : Stmt} {d : Definition} (defines : s.definition? = some d) :
    d.range = s.range := by
  cases s <;> cases defines <;> rfl

end Stmt

namespace WellPlaced

variable {module : List Stmt}

theorem spans_of_mem (placed : WellPlaced module) {s : Stmt} (member : s ∈ module) :
    ∀ u ∈ s.preorder, u.Spans :=
  fun u deeper => placed.spans u (List.mem_flatMap.mpr ⟨s, member, deeper⟩)

theorem definitions_pairwise (placed : WellPlaced module) :
    (definitions module).Pairwise fun d e =>
      d.range.start < e.range.start ∧
        (e.range.stop ≤ d.range.stop ∨ d.range.stop ≤ e.range.start) := by
  have walk : (module.flatMap Stmt.preorder).Pairwise Stmt.Precedes :=
    Stmt.preorders_pairwise placed.inOrder (fun _ => placed.spans_of_mem)
      fun _ member => Stmt.preorder_pairwise (placed.spans_of_mem member)
  apply walk.filterMap
  intro s t precedes d hd e he
  rw [Stmt.definition?_range hd, Stmt.definition?_range he]
  exact precedes

theorem definitions_nonempty (placed : WellPlaced module) {d : Definition}
    (member : d ∈ definitions module) : d.range.start < d.range.stop := by
  obtain ⟨s, there, defines⟩ := List.mem_filterMap.mp member
  rw [Stmt.definition?_range defines]
  exact (placed.spans s there).nonempty

end WellPlaced

/-- Records start one after the other, none ends before it starts, and of two the later one lies in
the earlier one or starts where that has ended. -/
theorem discoverFunctions_inOrder (c : Counting) {module : List Stmt} (placed : WellPlaced module) :
    (discoverFunctions c module).Pairwise (fun f g => f.span.start < g.span.start) ∧
    (∀ f ∈ discoverFunctions c module, f.span.start ≤ f.span.stop) ∧
    (discoverFunctions c module).Pairwise fun f g =>
      (f.span.start ≤ g.span.start ∧ g.span.stop ≤ f.span.stop) ∨ f.span.stop ≤ g.span.start := by
  have ordered := placed.definitions_pairwise
  rw [discover_records]
  refine ⟨?starts, ?ends, ?nested⟩
  case starts =>
    rw [List.pairwise_map]
    apply ordered.imp
    intro d e precedes
    exact c.lines.position_lt precedes.1
  case ends =>
    intro f member
    obtain ⟨d, found, rfl⟩ := List.mem_map.mp member
    exact c.lines.position_le_iff.mpr (Nat.le_of_lt (placed.definitions_nonempty found))
  case nested =>
    rw [List.pairwise_map]
    apply ordered.imp
    intro d e precedes
    rcases precedes with ⟨start, inside | apart⟩
    · exact .inl ⟨c.lines.position_le_iff.mpr (Nat.le_of_lt start),
        c.lines.position_le_iff.mpr inside⟩
    · exact .inr (c.lines.position_le_iff.mpr apart)

/-- A definition in each block of a `try`, and in one of these another. -/
def definitionsInTry : List Stmt :=
  let number (start : Nat) : List Stmt := [.expr ⟨start, start + 1⟩ (.constant ⟨start, start + 1⟩)]
  let inner (start : Nat) (name : String) : Stmt :=
    .funcDef ⟨start, start + 10⟩ name [] (number (start + 9)) [] none
  [.tryBlock ⟨0, 68⟩
    [.funcDef ⟨7, 28⟩ "f" [] [inner 18 "g"] [] none]
    [.mk ⟨29, 50⟩ (some (.name ⟨36, 37⟩)) none [inner 40 "h"]]
    [inner 58 "i"] []]

theorem definitionsInTry_placed : WellPlaced definitionsInTry := by
  constructor
  · simp [definitionsInTry, Stmt.InOrder]
  · intro s member
    simp only [definitionsInTry, Nat.reduceAdd, List.flatMap_cons, Stmt.preorder_eq, Stmt.inner,
      Handler.body, List.flatMap_nil, List.append_nil, List.cons_append, List.nil_append,
      List.mem_cons, List.not_mem_nil, or_false] at member
    rcases member with rfl | rfl | rfl | rfl | rfl | rfl | rfl | rfl <;>
      constructor <;> simp [Stmt.range, Stmt.inner, Handler.body, Stmt.InOrder]

theorem discoverFunctions_inOrder_try :
    let text := "try:\r\n def f():\r  def g(): 0\rexcept E:\n def h(): 0\nelse:\n def i(): 0\n"
    let records := discoverFunctions ⟨Preset.standardRules, .ofText text⟩ definitionsInTry
    WellPlaced definitionsInTry ∧
    records.map (fun f => (f.name, f.span.line, f.span.col, f.span.endLine, f.span.endCol)) =
      [("f", 2, 1, 3, 12), ("g", 3, 2, 3, 12), ("h", 5, 1, 5, 11), ("i", 7, 1, 7, 11)] ∧
    records.Pairwise (fun f g => f.span.start < g.span.start) := by
  intro text records
  refine ⟨definitionsInTry_placed, by decide +kernel, ?_⟩
  exact (discoverFunctions_inOrder ⟨_, .ofText text⟩ definitionsInTry_placed).1

end BranchCount
