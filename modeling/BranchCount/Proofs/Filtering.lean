import Mathlib.Data.List.Basic
import Mathlib.Data.List.Forall2
import BranchCount.Rules.Preset
import BranchCount.Proofs.Definitions
import BranchCount.Proofs.Weights

/-!
Rules only leave out. Whatever the rules, the same functions are found at the same places, and the
contributions of each are those under the rules that count everything, less the kinds that are off.
So a rule set that counts more never gives a smaller score.
-/
namespace BranchCount

/-- All decision points of a function, whatever the rules. -/
def Definition.points (d : Definition) : List Point :=
  d.scope.flatMap Node.points

namespace Counting

theorem kept_flatMap {α : Type} (c : Counting) (xs : List α) (points : α → List Point) :
    c.kept (xs.flatMap points) = xs.flatMap fun x => c.kept (points x) := by
  induction xs with
  | nil => rfl
  | cons x rest ih => rw [List.flatMap_cons, kept_append, ih, List.flatMap_cons]

theorem mem_kept (c : Counting) {points : List Point} {k : Contribution} (member : k ∈ c.kept points) :
    ∃ p ∈ points, c.rules.isEnabled p.kind = true ∧ k = c.contribution p := by
  obtain ⟨p, kept, rfl⟩ := List.mem_map.mp member
  obtain ⟨there, on⟩ := List.mem_filter.mp kept
  exact ⟨p, there, on, rfl⟩

theorem kept_isEnabled (c : Counting) {points : List Point} {k : Contribution}
    (member : k ∈ c.kept points) : c.rules.isEnabled k.kind = true := by
  obtain ⟨p, -, on, rfl⟩ := c.mem_kept member
  exact on

theorem definition_kept (c : Counting) (d : Definition) :
    c.definition d = ({} : Score).plus (c.kept d.points) := by
  rw [definition_run, Definition.points, kept_flatMap]
  rfl

end Counting

theorem toRecord_contributions (d : Definition) (c : Counting) :
    (d.toRecord c).contributions = c.kept d.points := by
  simp [Definition.toRecord, Counting.definition_kept, Score.plus]

theorem toRecord_complexity (d : Definition) (c : Counting) :
    (d.toRecord c).complexity = 1 + total ((c.kept d.points).map (·.amount)) := by
  simp [Definition.toRecord, Counting.definition_kept, Score.plus]

/-- Two searches that agree on each definition by itself agree record by record. -/
theorem discover_related {related : FunctionRecord → FunctionRecord → Prop} {c₁ c₂ : Counting}
    (each : ∀ d : Definition, related (d.toRecord c₁) (d.toRecord c₂)) (module : List Stmt) :
    List.Forall₂ related (discoverFunctions c₁ module) (discoverFunctions c₂ module) := by
  rw [discover_records, discover_records, List.forall₂_map_left_iff, List.forall₂_map_right_iff]
  exact List.forall₂_same.mpr fun d _ => each d

theorem total_sublist {xs ys : List Nat} (h : xs.Sublist ys) : total xs ≤ total ys := by
  induction h with
  | slnil => exact Nat.le_refl _
  | cons y _ ih => exact Nat.le_trans ih (Nat.le_add_left _ _)
  | cons_cons y _ ih => exact Nat.add_le_add_left ih y

/-- What a test keeps and what it drops come to the whole. -/
theorem total_split (test : Contribution → Bool) (cs : List Contribution) :
    total ((cs.filter test).map (·.amount)) + total ((cs.filter fun k => !test k).map (·.amount)) =
      total (cs.map (·.amount)) := by
  induction cs with
  | nil => rfl
  | cons k rest ih =>
    by_cases holds : test k = true
    · simp [holds, total]
      omega
    · simp [holds, total]
      omega

/-- Every flag that is on in the one is on in the other. -/
def RuleSet.Within (narrow wide : RuleSet) : Prop :=
  ∀ flag, narrow.counts flag = true → wide.counts flag = true

theorem RuleSet.Within.isEnabled {narrow wide : RuleSet} (within : narrow.Within wide) (kind : Kind)
    (on : narrow.isEnabled kind = true) : wide.isEnabled kind = true := by
  cases kind with
  | filter =>
    simp only [RuleSet.isEnabled, Bool.and_eq_true] at on
    simp only [RuleSet.isEnabled, Bool.and_eq_true]
    exact ⟨within _ on.1, within _ on.2⟩
  | _ => exact within _ on

theorem strict_within_standard : Preset.strictRules.Within Preset.standardRules := by
  intro flag on
  cases flag with
  | assertion => cases on
  | withBlock => cases on
  | _ => rfl

theorem comprehensive_isEnabled (kind : Kind) : Preset.comprehensiveRules.isEnabled kind = true := by
  cases kind <;> rfl

/-- A record under some rules beside the record of the same function under the rules that count
everything. -/
structure Restricts (rules : RuleSet) (f full : FunctionRecord) : Prop where
  name : f.name = full.name
  span : f.span = full.span
  isAsync : f.isAsync = full.isAsync
  contributions : f.contributions = full.contributions.filter fun k => rules.isEnabled k.kind
  complexity : full.complexity = f.complexity +
    total ((full.contributions.filter fun k => !rules.isEnabled k.kind).map (·.amount))

/- The rules enter a contribution only by keeping it or not: its line and amount are those of the
point. -/

theorem kept_comprehensive (lines : LineTable) (points : List Point) (rules : RuleSet) :
    (Counting.kept ⟨Preset.comprehensiveRules, lines⟩ points).filter (fun k => rules.isEnabled k.kind) =
      Counting.kept ⟨rules, lines⟩ points := by
  have all : ∀ p ∈ points, Preset.comprehensiveRules.isEnabled p.kind = true :=
    fun p _ => comprehensive_isEnabled p.kind
  rw [Counting.kept_enabled _ points all, List.filter_map]
  rfl

theorem kept_sublist (lines : LineTable) (points : List Point) {narrow wide : RuleSet}
    (within : narrow.Within wide) :
    (Counting.kept ⟨narrow, lines⟩ points).Sublist (Counting.kept ⟨wide, lines⟩ points) := by
  have fewer : (points.filter fun p => narrow.isEnabled p.kind).Sublist
      (points.filter fun p => wide.isEnabled p.kind) :=
    List.monotone_filter_right points fun p => within.isEnabled p.kind
  exact fewer.map _

theorem toRecord_restricts (rules : RuleSet) (lines : LineTable) (d : Definition) :
    Restricts rules (d.toRecord ⟨rules, lines⟩) (d.toRecord ⟨Preset.comprehensiveRules, lines⟩) where
  name := rfl
  span := rfl
  isAsync := rfl
  contributions := by
    rw [toRecord_contributions, toRecord_contributions, kept_comprehensive]
  complexity := by
    rw [toRecord_complexity, toRecord_complexity, toRecord_contributions,
      ← kept_comprehensive lines d.points rules, Nat.add_assoc, total_split]

theorem toRecord_monotone (lines : LineTable) {narrow wide : RuleSet} (within : narrow.Within wide)
    (d : Definition) :
    (d.toRecord ⟨narrow, lines⟩).complexity ≤ (d.toRecord ⟨wide, lines⟩).complexity := by
  rw [toRecord_complexity, toRecord_complexity]
  exact Nat.add_le_add_left (total_sublist ((kept_sublist lines d.points within).map _)) 1

/-- Under any rules the functions are those found when everything counts, in the same order, and
each has lost exactly the contributions whose kind is off. Rules that count more give no function a
smaller score. -/
theorem rules_filter (lines : LineTable) (module : List Stmt) :
    (∀ rules : RuleSet,
      List.Forall₂ (Restricts rules) (discoverFunctions ⟨rules, lines⟩ module)
        (discoverFunctions ⟨Preset.comprehensiveRules, lines⟩ module)) ∧
    ∀ narrow wide : RuleSet, narrow.Within wide →
      List.Forall₂ (fun f g => f.complexity ≤ g.complexity)
        (discoverFunctions ⟨narrow, lines⟩ module) (discoverFunctions ⟨wide, lines⟩ module) := by
  constructor
  · intro rules
    exact discover_related (toRecord_restricts rules lines) module
  · intro narrow wide within
    exact discover_related (toRecord_monotone lines within) module

/-- A chain of two operands under a conditional, which the narrower of two presets leaves out. -/
theorem rules_filter_strict_standard :
    let module : List Stmt :=
      [.funcDef ⟨0, 40⟩ "f" [] [.conditional ⟨13, 40⟩ (.chain ⟨16, 23⟩ .conj
        [.name ⟨16, 17⟩, .name ⟨22, 23⟩]) [.inert ⟨36, 40⟩ .pass] []] [] none]
    let strict := discoverFunctions ⟨Preset.strictRules, ⟨[0]⟩⟩ module
    let standard := discoverFunctions ⟨Preset.standardRules, ⟨[0]⟩⟩ module
    Preset.strictRules.Within Preset.standardRules ∧
    strict.map (·.complexity) = [2] ∧ standard.map (·.complexity) = [3] ∧
    List.Forall₂ (fun f g => f.complexity ≤ g.complexity) strict standard := by
  intro module strict standard
  exact ⟨strict_within_standard, rfl, rfl,
    (rules_filter ⟨[0]⟩ module).2 _ _ strict_within_standard⟩

end BranchCount
