import BranchCount.Analysis.File
import BranchCount.Proofs.Filtering
import BranchCount.Proofs.Layering

/-!
The comparison of the presets has one row for each function of the file, in the order of the file,
with the three scores of that very function. The scores grow from preset to preset, and the parts
that a row lists account for the standard score but for its handlers and ternaries. Nothing but the
text of the file is looked at.
-/
namespace BranchCount

/- What a record's contributions come to, kind by kind. -/

/-- What the contributions of one kind come to. -/
def amountOf (cs : List Contribution) (kind : Kind) : Nat :=
  total ((cs.filter (·.kind = kind)).map (·.amount))

theorem amountFor_eq (f : FunctionRecord) (kind : Kind) :
    f.amountFor kind = amountOf f.contributions kind := rfl

theorem amountOf_cons (k : Contribution) (rest : List Contribution) (kind : Kind) :
    amountOf (k :: rest) kind = (if k.kind = kind then k.amount else 0) + amountOf rest kind := by
  by_cases same : k.kind = kind
  · simp [amountOf, same, total]
  · simp [amountOf, same]

theorem amountOf_none {cs : List Contribution} {kind : Kind} (none : ∀ k ∈ cs, k.kind ≠ kind) :
    amountOf cs kind = 0 := by
  have nothing : cs.filter (·.kind = kind) = [] := by
    rw [List.filter_eq_nil_iff]
    intro k hk
    simpa using none k hk
  rw [amountOf, nothing]
  rfl

theorem total_map_add {α : Type} (f g : α → Nat) (xs : List α) :
    total (xs.map fun x => f x + g x) = total (xs.map f) + total (xs.map g) := by
  induction xs with
  | nil => rfl
  | cons x rest ih =>
    simp only [List.map_cons, total, ih]
    omega

theorem total_at {kinds : List Kind} (once : kinds.Nodup) (kind : Kind) (amount : Nat) :
    total (kinds.map fun k => if kind = k then amount else 0) =
      if kind ∈ kinds then amount else 0 := by
  induction kinds with
  | nil => rfl
  | cons k rest ih =>
    obtain ⟨fresh, onceMore⟩ := List.nodup_cons.mp once
    simp only [List.map_cons, total, ih onceMore]
    by_cases here : kind = k
    · subst here
      simp [fresh]
    · simp [here]

/-- Every contribution is of exactly one kind, so kinds that are listed once make up what the
contributions of these kinds come to. -/
theorem total_amountOf_kinds {kinds : List Kind} (once : kinds.Nodup) (cs : List Contribution) :
    total (kinds.map (amountOf cs)) = total ((cs.filter (·.kind ∈ kinds)).map (·.amount)) := by
  induction cs with
  | nil =>
    have nothing : total (kinds.map fun _ => 0) = 0 := by
      simpa using total_at once .conditional 0
    exact nothing
  | cons k rest ih =>
    have split : amountOf (k :: rest) =
        fun kind => (if k.kind = kind then k.amount else 0) + amountOf rest kind :=
      funext (amountOf_cons k rest)
    rw [split, total_map_add, total_at once, ih]
    by_cases listed : k.kind ∈ kinds
    · simp [listed, total]
    · simp [listed]

theorem Kind.all_nodup : Kind.all.Nodup := by
  decide

theorem Kind.mem_all (kind : Kind) : kind ∈ Kind.all := by
  cases kind <;> decide

theorem total_amountOf (cs : List Contribution) :
    total (Kind.all.map (amountOf cs)) = total (cs.map (·.amount)) := by
  rw [total_amountOf_kinds Kind.all_nodup]
  simp [Kind.mem_all]

theorem total_positive (parts : List (String × Nat)) :
    total ((parts.filter (0 < ·.2)).map (·.2)) = total (parts.map (·.2)) := by
  induction parts with
  | nil => rfl
  | cons part rest ih =>
    by_cases some : 0 < part.2
    · simp [some, total, ih]
    · simp [some, total, ih]
      omega

/-- The groups of a breakdown and the four kinds that are in none of them make up the whole. -/
theorem breakdown_total (f : FunctionRecord) :
    total ((breakdown f).map (·.2)) + f.amountFor .handler + f.amountFor .assertion +
      f.amountFor .withBlock + f.amountFor .ternary = total (f.contributions.map (·.amount)) := by
  have whole := total_amountOf f.contributions
  rw [breakdown, total_positive]
  simp only [← amountFor_eq, Kind.all, List.map_cons, List.map_nil, total] at whole
  simp only [breakdownGroups, groupAmount, Kind.all, Kind.isLoop, Kind.isComprehension,
    List.map_cons, List.map_nil, List.filter, total]
  simp [total]
  omega

/- The records of one function under different rules. -/

theorem toRecord_enabled (d : Definition) (c : Counting) {k : Contribution}
    (kept : k ∈ (d.toRecord c).contributions) : c.rules.isEnabled k.kind = true := by
  rw [toRecord_contributions] at kept
  exact c.kept_isEnabled kept

/-- A kind that is off adds nothing. -/
theorem amountFor_disabled (d : Definition) (c : Counting) {kind : Kind}
    (off : c.rules.isEnabled kind = false) : (d.toRecord c).amountFor kind = 0 := by
  apply amountOf_none
  intro k hk same
  have on := toRecord_enabled d c hk
  rw [same, off] at on
  cases on

/-- The standard preset counts neither assertions nor `with`, so the groups of the breakdown lack
only handlers and ternaries. -/
theorem standard_parts (lines : LineTable) (d : Definition) :
    let f := d.toRecord ⟨Preset.standardRules, lines⟩
    f.complexity = 1 + total ((breakdown f).map (·.2)) + f.amountFor .handler +
      f.amountFor .ternary := by
  intro f
  have score : f.complexity = 1 + total (f.contributions.map (·.amount)) := by
    rw [toRecord_complexity, toRecord_contributions]
  have whole := breakdown_total f
  have assertions : f.amountFor .assertion = 0 := amountFor_disabled d _ rfl
  have blocks : f.amountFor .withBlock = 0 := amountFor_disabled d _ rfl
  omega

theorem standard_within_comprehensive :
    Preset.standardRules.Within Preset.comprehensiveRules :=
  fun _ _ => rfl

/-- The row of one function. -/
def Definition.row (lines : LineTable) (d : Definition) : ComparisonRow :=
  let f := d.toRecord ⟨Preset.standardRules, lines⟩
  { name := f.displayName
    line := f.line
    strict := (d.toRecord ⟨Preset.strictRules, lines⟩).complexity
    standard := f.complexity
    comprehensive := (d.toRecord ⟨Preset.comprehensiveRules, lines⟩).complexity
    breakdown := breakdown f }

theorem comparisonRows_map (lines : LineTable) (ds : List Definition) :
    comparisonRows (ds.map (·.toRecord ⟨Preset.strictRules, lines⟩))
        (ds.map (·.toRecord ⟨Preset.standardRules, lines⟩))
        (ds.map (·.toRecord ⟨Preset.comprehensiveRules, lines⟩)) = ds.map (·.row lines) := by
  induction ds with
  | nil => rfl
  | cons d rest ih =>
    simp only [List.map_cons, comparisonRows, ih]
    rfl

namespace Distribution

theorem add_total (d : Distribution) (complexity : Nat) :
    (d.add complexity).total = d.total + 1 := by
  unfold add
  split
  · simp only [total]
    omega
  · split
    · simp only [total]
      omega
    · split
      · simp only [total]
        omega
      · simp only [total]
        omega

/-- Every function falls into exactly one range. -/
theorem ofFunctions_total (functions : List FunctionRecord) :
    (ofFunctions functions).total = functions.length := by
  have run : ∀ (fs : List FunctionRecord) (d : Distribution),
      (fs.foldl (fun d f => d.add f.complexity) d).total = d.total + fs.length := by
    intro fs
    induction fs with
    | nil =>
      intro d
      rfl
    | cons f rest ih =>
      intro d
      rw [List.foldl_cons, ih, add_total, List.length_cons]
      omega
  rw [ofFunctions, run]
  simp [total]

end Distribution

namespace FileSystem

/- Files are read and parsed before any rule is looked at. -/

theorem analyzeFile_value (fs : FileSystem) (parse : ModuleParser) (path : String)
    (rules : RuleSet) :
    (fs.analyzeFile parse path rules).value =
      match fs.parseFile parse path with
      | .ok m => .success (m.analyze rules)
      | .error e => .failure e.toFailure := by
  unfold analyzeFile
  cases fs.parseFile parse path with
  | ok m => rfl
  | error e => rfl

theorem analyze_functions (m : ParsedModule) (rules : RuleSet) :
    (m.analyze rules).functions =
      (definitions m.statements).map (·.toRecord ⟨rules, m.lines⟩) :=
  discover_records ⟨rules, m.lines⟩ m.statements

theorem comparePresets_value (fs : FileSystem) (parse : ModuleParser) (path : String) :
    (fs.comparePresets parse path).value =
      match fs.parseFile parse path with
      | .ok m =>
        .ok
          { path
            rows := (definitions m.statements).map (·.row m.lines)
            average := averageComplexity (m.analyze Preset.standardRules).functions
            distribution := .ofFunctions (m.analyze Preset.standardRules).functions }
      | .error e => .error e.toFailure := by
  unfold comparePresets analyzeUnder
  simp only [Logged.bind_value, analyzeFile_value, Preset.rules]
  cases fs.parseFile parse path with
  | ok m => simp only [Logged.pure_value, analyze_functions, comparisonRows_map]
  | error e => rfl

theorem parseFile_agree {fs other : FileSystem} (parse : ModuleParser) {path : String}
    (same : other.readText path.toList = fs.readText path.toList) :
    other.parseFile parse path = fs.parseFile parse path := by
  rw [parseFile, parseFile, readSource, readSource, same]

/-- The record that a function of a file has under given rules. -/
def functionAt (fs : FileSystem) (parse : ModuleParser) (path : String) (rules : RuleSet)
    (i : Nat) :    Option FunctionRecord :=
  (fs.analyzeFile parse path rules).value.functions[i]?

/-- A row is about the function at one place of the file. -/
structure RowAt (fs : FileSystem) (parse : ModuleParser) (path : String) (i : Nat)
    (row : ComparisonRow) : Prop where
  place : ∀ rules, (fs.functionAt parse path rules i).map (fun f => (f.displayName, f.line)) =
    some (row.name, row.line)
  strict : (fs.functionAt parse path Preset.strictRules i).map (·.complexity) = some row.strict
  standard :
    (fs.functionAt parse path Preset.standardRules i).map (·.complexity) = some row.standard
  comprehensive :
    (fs.functionAt parse path Preset.comprehensiveRules i).map (·.complexity) =
      some row.comprehensive
  positive : 1 ≤ row.strict
  strict_le : row.strict ≤ row.standard
  standard_le : row.standard ≤ row.comprehensive
  parts : (fs.functionAt parse path Preset.standardRules i).map (fun f =>
    1 + BranchCount.total (row.breakdown.map (·.2)) + f.amountFor .handler + f.amountFor .ternary) =
      some row.standard

theorem functionAt_eq {fs : FileSystem} {parse : ModuleParser} {path : String} {m : ParsedModule}
    (parsed : fs.parseFile parse path = .ok m) (rules : RuleSet) (i : Nat) :
    fs.functionAt parse path rules i =
      (definitions m.statements)[i]?.map (·.toRecord ⟨rules, m.lines⟩) := by
  rw [functionAt, analyzeFile_value, parsed, ← List.getElem?_map, ← analyze_functions]
  rfl

theorem rowAt_definition {fs : FileSystem} {parse : ModuleParser} {path : String} {m : ParsedModule}
    (parsed : fs.parseFile parse path = .ok m) {i : Nat} {d : Definition}
    (here : (definitions m.statements)[i]? = some d) : fs.RowAt parse path i (d.row m.lines) where
  place rules := by
    rw [functionAt_eq parsed, here]
    rfl
  strict := by
    rw [functionAt_eq parsed, here]
    rfl
  standard := by
    rw [functionAt_eq parsed, here]
    rfl
  comprehensive := by
    rw [functionAt_eq parsed, here]
    rfl
  positive := by
    simp only [Definition.row, toRecord_complexity]
    omega
  strict_le := toRecord_monotone m.lines strict_within_standard d
  standard_le := toRecord_monotone m.lines standard_within_comprehensive d
  parts := by
    rw [functionAt_eq parsed, here]
    exact congrArg some (standard_parts m.lines d).symm

/-- A comparison succeeds if analysis does, whatever the rules, and fails as analysis fails. It has
one row for each function, in order, about the function at that place, and its distribution counts
every row once. Only the text of the file matters, so no override file does. -/
theorem comparePresets_aligned (fs : FileSystem) (parse : ModuleParser) (path : String) :
    ((∃ c, (fs.comparePresets parse path).value = .ok c) ↔
      ∀ rules, (fs.analyzeFile parse path rules).value.isSuccess = true) ∧
    (∀ rules failure, (fs.comparePresets parse path).value = .error failure ↔
      (fs.analyzeFile parse path rules).value = .failure failure) ∧
    (∀ c, (fs.comparePresets parse path).value = .ok c →
      (∀ rules, c.rows.length = (fs.analyzeFile parse path rules).value.functions.length) ∧
      (∀ i row, c.rows[i]? = some row → fs.RowAt parse path i row) ∧
      c.distribution.total = c.rows.length) ∧
    ∀ other : FileSystem, other.readText path.toList = fs.readText path.toList →
      other.comparePresets parse path = fs.comparePresets parse path := by
  refine ⟨?_, ?_, ?_, ?_⟩
  · simp only [comparePresets_value, analyzeFile_value]
    cases fs.parseFile parse path with
    | ok m => exact ⟨fun _ _ => rfl, fun _ => ⟨_, rfl⟩⟩
    | error e =>
      constructor
      · rintro ⟨c, impossible⟩
        cases impossible
      · intro every
        cases every Preset.standardRules
  · intro rules failure
    simp only [comparePresets_value, analyzeFile_value]
    cases fs.parseFile parse path with
    | ok m => simp
    | error e => simp
  · intro c compared
    rw [comparePresets_value] at compared
    cases parsed : fs.parseFile parse path with
    | error e =>
      rw [parsed] at compared
      cases compared
    | ok m =>
      rw [parsed] at compared
      cases compared
      refine ⟨?_, ?_, ?_⟩
      · intro rules
        rw [analyzeFile_value, parsed]
        simp [AnalysisResult.functions, analyze_functions]
      · intro i row here
        obtain ⟨d, found, rfl⟩ : ∃ d, (definitions m.statements)[i]? = some d ∧
            d.row m.lines = row := by
          simpa [List.getElem?_map] using here
        exact rowAt_definition parsed found
      · simp [Distribution.ofFunctions_total, analyze_functions]
  · intro other same
    simp only [comparePresets, analyzeUnder, analyzeFile, parseFile_agree parse same]

/-- A chain that only the strict preset leaves out, beside an override that would leave it out. -/
theorem comparePresets_aligned_chain :
    let text := "def f(a):\n    return a and 1\n".toUTF8
    let fs := (empty ["r".toList]).writeFile "m.py".toList text
    let other := fs.writeFile ".complexity.json".toList "\x7b\"countBoolOp\": false\x7d".toUTF8
    (∃ c, (fs.comparePresets parseModule "m.py").value = .ok c ∧
      c.rows.map (fun r => (r.name, r.strict, r.standard)) = [("f", 1, 2)] ∧
      ∀ i row, c.rows[i]? = some row → fs.RowAt parseModule "m.py" i row) ∧
    other.comparePresets parseModule "m.py" = fs.comparePresets parseModule "m.py" := by
  intro text fs other
  have rows : (fs.comparePresets parseModule "m.py").value.toOption.map
      (fun c => c.rows.map fun r => (r.name, r.strict, r.standard)) = some [("f", 1, 2)] := by
    decide +kernel
  obtain ⟨-, -, aligned, isolated⟩ := comparePresets_aligned fs parseModule "m.py"
  constructor
  · cases compared : (fs.comparePresets parseModule "m.py").value with
    | error failure => simp [compared, Except.toOption] at rows
    | ok c =>
      exact ⟨c, rfl, by simpa [compared, Except.toOption] using rows, (aligned c compared).2.1⟩
  · have file : fs.fileAt? "m.py".toList = some (.bytes text) := by decide +kernel
    have unchanged : other.fileAt? "m.py".toList = some (.bytes text) := by decide +kernel
    apply isolated other
    rw [readText_of_file file, readText_of_file unchanged]

end FileSystem

end BranchCount
