import BranchCount.Proofs.Comparison

/-!
What the breakdown of a score lists. A kind of decision point has one label or none. The breakdown
gives each label what the contributions of its kinds come to, in a fixed order, and leaves out the
labels that come to nothing; so it depends on the contributions alone and not on their order, and
together with the four kinds that have no label it makes up the whole score.
-/
namespace BranchCount

def breakdownLabels : List String :=
  ["if/elif", "loops", "and/or", "comprehensions", "match"]

/-- The label that the points of a kind are listed under. -/
def Kind.label? : Kind → Option String
  | .conditional => some "if/elif"
  | .whileLoop | .forLoop => some "loops"
  | .boolOp => some "and/or"
  | .listComp | .setComp | .dictComp | .genExp | .filter => some "comprehensions"
  | .matchCase => some "match"
  | .handler | .assertion | .withBlock | .ternary => none

/-- What the contributions with a label come to. -/
def labelled (cs : List Contribution) (label : String) : Nat :=
  total ((cs.filter (·.kind.label? = some label)).map (·.amount))

theorem total_perm {ns ms : List Nat} (perm : ns.Perm ms) : total ns = total ms := by
  induction perm with
  | nil => rfl
  | cons n _ ih => rw [total, total, ih]
  | swap n m rest =>
    simp only [total]
    omega
  | trans _ _ first second => rw [first, second]

theorem total_eq_zero {ns : List Nat} : total ns = 0 ↔ ∀ n ∈ ns, n = 0 := by
  induction ns with
  | nil => simp [total]
  | cons n rest ih => rw [total, Nat.add_eq_zero_iff, ih, List.forall_mem_cons]

theorem labelled_perm {cs ds : List Contribution} (perm : cs.Perm ds) (label : String) :
    labelled cs label = labelled ds label :=
  total_perm ((perm.filter _).map _)

theorem labelled_eq_zero {cs : List Contribution} {label : String} :
    labelled cs label = 0 ↔ ∀ c ∈ cs, c.kind.label? = some label → c.amount = 0 := by
  unfold labelled
  rw [total_eq_zero]
  constructor
  · intro nothing c member same
    apply nothing
    exact List.mem_map_of_mem (List.mem_filter.mpr ⟨member, by simpa using same⟩)
  · intro nothing n member
    obtain ⟨c, kept, rfl⟩ := List.mem_map.mp member
    obtain ⟨member, same⟩ := List.mem_filter.mp kept
    exact nothing c member (by simpa using same)

/-- Adding up a group kind by kind adds each of its contributions once. -/
theorem groupAmount_eq (f : FunctionRecord) (group : Kind → Bool) :
    groupAmount f group =
      total ((f.contributions.filter fun c => group c.kind).map (·.amount)) := by
  have once : (Kind.all.filter group).Nodup := Kind.all_nodup.filter group
  have listed (c : Contribution) : decide (c.kind ∈ Kind.all.filter group) = group c.kind := by
    simp [Kind.mem_all]
  have exchanged := total_amountOf_kinds once f.contributions
  simp only [listed] at exchanged
  exact exchanged

theorem breakdownGroups_eq :
    breakdownGroups = breakdownLabels.map fun label =>
      (label, fun kind : Kind => decide (kind.label? = some label)) := by
  simp only [breakdownGroups, breakdownLabels, List.map_cons, List.map_nil, List.cons.injEq,
    Prod.mk.injEq, true_and, and_true]
  refine ⟨?_, ?_, ?_, ?_, ?_⟩
  all_goals
    funext kind
    cases kind <;> rfl

theorem breakdown_eq (f : FunctionRecord) :
    breakdown f =
      (breakdownLabels.map fun label => (label, labelled f.contributions label)).filter
        (0 < ·.2) := by
  unfold breakdown
  rw [breakdownGroups_eq, List.map_map]
  congr 2
  funext label
  exact congrArg (Prod.mk label) (groupAmount_eq f _)

theorem mem_breakdown {f : FunctionRecord} {label : String} {amount : Nat} :
    (label, amount) ∈ breakdown f ↔
      label ∈ breakdownLabels ∧ labelled f.contributions label = amount ∧ 0 < amount := by
  rw [breakdown_eq]
  constructor
  · intro member
    obtain ⟨listed, positive⟩ := List.mem_filter.mp member
    obtain ⟨other, known, same⟩ := List.mem_map.mp listed
    cases same
    exact ⟨known, rfl, by simpa using positive⟩
  · rintro ⟨known, rfl, positive⟩
    exact List.mem_filter.mpr ⟨List.mem_map_of_mem known, by simpa using positive⟩

theorem breakdown_sublist (f : FunctionRecord) :
    ((breakdown f).map (·.1)).Sublist breakdownLabels := by
  rw [breakdown_eq]
  have parts := (List.filter_sublist (p := fun part : String × Nat => decide (0 < part.2))
    (l := breakdownLabels.map fun label => (label, labelled f.contributions label))).map (·.1)
  simpa [Function.comp_def] using parts

theorem label_missing {f : FunctionRecord} {label : String} (known : label ∈ breakdownLabels) :
    label ∉ (breakdown f).map (·.1) ↔ labelled f.contributions label = 0 := by
  constructor
  · intro missing
    by_contra something
    apply missing
    have listed := mem_breakdown.mpr ⟨known, rfl, Nat.pos_of_ne_zero something⟩
    exact List.mem_map_of_mem (f := (·.1)) listed
  · intro nothing member
    obtain ⟨⟨other, amount⟩, listed, rfl⟩ := List.mem_map.mp member
    obtain ⟨-, same, positive⟩ := mem_breakdown.mp listed
    have none : amount = 0 := same.symm.trans nothing
    omega

/-- The breakdown and the four kinds without a label make up the contributions. What it lists is
positive and stands once under its label, in the fixed order; a label is missing only if nothing of
its kinds counts, and the order of the contributions does not matter. -/
theorem breakdown_accounts (f : FunctionRecord) :
    total ((breakdown f).map (·.2)) + f.amountFor .handler + f.amountFor .assertion +
      f.amountFor .withBlock + f.amountFor .ternary = total (f.contributions.map (·.amount)) ∧
    (∀ part ∈ breakdown f, part.2 = labelled f.contributions part.1 ∧ 0 < part.2) ∧
    ((breakdown f).map (·.1)).Nodup ∧
    ((breakdown f).map (·.1)).Sublist ["if/elif", "loops", "and/or", "comprehensions", "match"] ∧
    (∀ label ∈ breakdownLabels, label ∉ (breakdown f).map (·.1) ↔
      ¬ ∃ c ∈ f.contributions, c.kind.label? = some label ∧ 0 < c.amount) ∧
    ∀ g : FunctionRecord, g.contributions.Perm f.contributions → breakdown g = breakdown f := by
  refine ⟨breakdown_total f, ?amounts, ?once, breakdown_sublist f, ?missing, ?reordered⟩
  case amounts =>
    intro part member
    obtain ⟨-, same, positive⟩ := mem_breakdown.mp member
    exact ⟨same.symm, positive⟩
  case once =>
    have distinct : breakdownLabels.Nodup := by decide
    exact (breakdown_sublist f).nodup distinct
  case missing =>
    intro label known
    rw [label_missing known, labelled_eq_zero]
    constructor
    · rintro nothing ⟨c, member, same, positive⟩
      have none := nothing c member same
      omega
    · intro nothing c member same
      by_contra something
      exact nothing ⟨c, member, same, Nat.pos_of_ne_zero something⟩
  case reordered =>
    intro g perm
    rw [breakdown_eq, breakdown_eq, funext (labelled_perm perm)]

/-- Two loops among kinds that are not listed, a comprehension that counts for nothing, and the same
contributions backwards. -/
theorem breakdown_accounts_backwards :
    let point (kind : Kind) (amount : Nat) : Contribution := ⟨kind, 2, amount, kind.description⟩
    let points := [point .forLoop 2, point .handler 1, point .genExp 0, point .boolOp 3,
      point .assertion 4, point .whileLoop 1]
    let f : FunctionRecord := ⟨"walk", ⟨1, 0, 9, 4⟩, false, 12, points⟩
    let g : FunctionRecord := { f with contributions := points.reverse }
    breakdown f = [("loops", 3), ("and/or", 3)] ∧
    3 = labelled f.contributions "loops" ∧
    3 + 3 + 1 + 4 + 0 + 0 = total (f.contributions.map (·.amount)) ∧
    (¬ ∃ c ∈ f.contributions, c.kind.label? = some "comprehensions" ∧ 0 < c.amount) ∧
    g.contributions.Perm f.contributions ∧ breakdown g = breakdown f := by
  intro point points f g
  have parts : breakdown f = [("loops", 3), ("and/or", 3)] := by decide
  have backwards : g.contributions.Perm f.contributions := points.reverse_perm
  obtain ⟨whole, amounts, -, -, missing, reordered⟩ := breakdown_accounts f
  rw [parts] at whole amounts missing
  refine ⟨parts, (amounts ("loops", 3) (by decide)).1, whole, ?_, backwards, reordered g backwards⟩
  exact (missing "comprehensions" (by decide)).mp (by decide)

end BranchCount
