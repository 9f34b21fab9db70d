import BranchCount.Proofs.Comparison
import BranchCount.Proofs.ReportText
import BranchCount.Proofs.Writers

/-!
Scores that are pointed out. Four ranges, the number of complex functions, the notes of a comparison
and the warning of a report are computed apart, and they draw the same lines: up to 10, up to 15, up
to 20, and above.
-/
namespace BranchCount

namespace Distribution

/-- Each range holds the number of functions with a score in it. -/
structure Counts (d : Distribution) (functions : List FunctionRecord) : Prop where
  low : d.low = functions.countP (·.complexity ≤ 10)
  medium : d.medium = functions.countP fun f => 11 ≤ f.complexity ∧ f.complexity ≤ 15
  high : d.high = functions.countP fun f => 16 ≤ f.complexity ∧ f.complexity ≤ 20
  veryHigh : d.veryHigh = functions.countP (20 < ·.complexity)

/-- One more function is counted in the range of its score and in no other. -/
theorem Counts.add {d : Distribution} {seen : List FunctionRecord} (counts : d.Counts seen)
    (f : FunctionRecord) : (d.add f.complexity).Counts (seen ++ [f]) := by
  have counted (p : FunctionRecord → Bool) :
      (seen ++ [f]).countP p = seen.countP p + if p f then 1 else 0 := by
    rw [List.countP_append, List.countP_singleton]
  obtain ⟨low, medium, high, veryHigh⟩ := counts
  unfold Distribution.add
  constructor
  all_goals
    rw [counted]
    split_ifs <;> simp_all <;> omega

theorem Counts.run {d : Distribution} {seen : List FunctionRecord} (counts : d.Counts seen)
    (functions : List FunctionRecord) :
    (functions.foldl (fun d f => d.add f.complexity) d).Counts (seen ++ functions) := by
  induction functions generalizing d seen with
  | nil =>
    rw [List.append_nil]
    exact counts
  | cons f rest ih =>
    have later := ih (counts.add f)
    rwa [List.append_assoc, List.singleton_append] at later

theorem ofFunctions_counts (functions : List FunctionRecord) :
    (ofFunctions functions).Counts functions := by
  have none : ({} : Distribution).Counts [] := ⟨rfl, rfl, rfl, rfl⟩
  exact none.run functions

theorem Counts.perm {d : Distribution} {functions others : List FunctionRecord}
    (counts : d.Counts functions) (perm : functions.Perm others) : d.Counts others where
  low := counts.low.trans (perm.countP_eq _)
  medium := counts.medium.trans (perm.countP_eq _)
  high := counts.high.trans (perm.countP_eq _)
  veryHigh := counts.veryHigh.trans (perm.countP_eq _)

theorem Counts.unique {d e : Distribution} {functions : List FunctionRecord}
    (here : d.Counts functions) (there : e.Counts functions) : d = e := by
  cases d
  cases e
  rw [mk.injEq]
  exact ⟨here.low.trans there.low.symm, here.medium.trans there.medium.symm,
    here.high.trans there.high.symm, here.veryHigh.trans there.veryHigh.symm⟩

theorem ofFunctions_perm {functions others : List FunctionRecord} (perm : others.Perm functions) :
    ofFunctions others = ofFunctions functions :=
  ((ofFunctions_counts others).perm perm).unique (ofFunctions_counts functions)

theorem countComplex_eq (functions : List FunctionRecord) :
    countComplex highThreshold functions =
      (ofFunctions functions).high + (ofFunctions functions).veryHigh := by
  rw [(ofFunctions_counts functions).high, (ofFunctions_counts functions).veryHigh]
  show functions.countP (15 < ·.complexity) = _
  induction functions with
  | nil => rfl
  | cons f rest ih =>
    simp only [List.countP_cons, ih, decide_eq_true_eq]
    split_ifs <;> omega

end Distribution

/- Notes. -/

theorem scoreNote_high {complexity : Nat} :
    scoreNote complexity = "High" ↔ 16 ≤ complexity ∧ complexity ≤ 20 := by
  unfold scoreNote
  split_ifs
  · simp
    omega
  · simp
    omega
  · simp
    omega

theorem scoreNote_veryHigh {complexity : Nat} :
    scoreNote complexity = "Very High" ↔ 20 < complexity := by
  unfold scoreNote
  split_ifs
  · simpa
  · simp
    omega
  · simp
    omega

/-- A note is counted among rows as it would be among functions with the same scores. -/
theorem countP_note {rows : List ComparisonRow} {functions : List FunctionRecord}
    (same : rows.map (·.standard) = functions.map (·.complexity)) (note : String) :
    rows.countP (fun row => (Report.tableRow row).getLast? = some note) =
      functions.countP fun f => scoreNote f.complexity = note := by
  have count := congrArg (List.countP fun n => scoreNote n = note) same
  rw [List.countP_map, List.countP_map] at count
  simpa [Report.tableRow, Function.comp_def] using count

/- The warning below a report. -/

namespace Style

theorem reopen_plain (opening : List Char) {text : List Char} (plain : '\x1b' ∉ text) :
    reopen opening text = text := by
  fun_induction reopen opening text with
  | case1 rest ih => simp at plain
  | case2 c rest _ ih => rw [ih (fun later => plain (List.mem_cons_of_mem c later))]
  | case3 => rfl

/-- A text without escapes stands unbroken in its colour. -/
theorem infix_paint (style : Style) (code : String) {text : String} (plain : '\x1b' ∉ text.toList) :
    text.toList <:+: (style.paint code text).toList := by
  unfold paint
  split
  · rw [String.toList_ofList, reopen_plain _ plain]
    exact List.infix_append _ _ _
  · exact List.infix_refl _

end Style

namespace Report

def Warns (text : String) : Prop :=
  "High complexity functions".toList <:+: text.toList

def highWarning (style : Style) (n : Nat) : String :=
  style.emoji "⚠️ " "[WARN]" ++ " " ++
    style.warning ("High complexity functions (>15): " ++ toString n) ++ "\n"

theorem not_warns {text : String} (made : Made (· ≠ 'H') text) : ¬ Warns text := by
  intro warns
  have letter : 'H' ∈ text.toList := warns.subset (by simp)
  exact made 'H' letter rfl

theorem warns_append {a b : String} (warns : Warns a ∨ Warns b) : Warns (a ++ b) := by
  unfold Warns at warns ⊢
  rw [String.toList_append]
  rcases warns with left | right
  · exact left.trans (List.prefix_append _ _).isInfix
  · exact right.trans (List.suffix_append _ _).isInfix

theorem highWarning_warns (style : Style) (n : Nat) : Warns (highWarning style n) := by
  have digits : Made (· ≠ '\x1b') n.repr := by
    apply made_nat
    rintro c digit rfl
    contradiction
  have words : Made (· ≠ '\x1b') "High complexity functions (>15): " := by
    simp [Made]
  have plain : '\x1b' ∉ ("High complexity functions (>15): " ++ toString n).toList :=
    fun escape => made_append.mpr ⟨words, digits⟩ _ escape rfl
  have message : Warns ("High complexity functions (>15): " ++ toString n) :=
    warns_append (.inl ⟨[], " (>15): ".toList, by simp⟩)
  have painted : Warns (style.warning ("High complexity functions (>15): " ++ toString n)) :=
    message.trans (style.infix_paint "33" plain)
  exact warns_append (.inl (warns_append (.inr painted)))

/-- The lines above the warning do without a capital H. -/
theorem footerLines_text (style : Style) (file : FileComplexity) :
    let high := countComplex highThreshold file.functions
    ∃ front, Made (· ≠ 'H') front ∧ String.join ((footerLines style file).map (· ++ "\n")) =
      front ++ if 0 < high then highWarning style high else "" := by
  intro high
  have digits (c : Char) (digit : c.isDigit = true) : c ≠ 'H' := by
    rintro rfl
    contradiction
  have rule : Made (· ≠ 'H') (Layout.rule detailedWidth) := Layout.made_rule (by decide) _
  have count : Made (· ≠ 'H') ("Total functions: " ++ toString file.functions.length) :=
    made_append.mpr ⟨by simp [Made], made_nat digits _⟩
  have average : Made (· ≠ 'H')
      ("Average complexity: " ++ Decimal.fixed 2 (averageComplexity file.functions)) :=
    made_append.mpr ⟨by simp [Made], made_fixed digits (by simp [Made]) _ _⟩
  by_cases empty : file.functions = []
  · have none : high = 0 := by
      show countComplex highThreshold file.functions = 0
      rw [empty]
      rfl
    refine ⟨_, made_lines (by decide) (List.forall_mem_cons.mpr
      ⟨rule, List.forall_mem_singleton.mpr count⟩), ?_⟩
    simp [footerLines, none, empty]
  · refine ⟨_, made_lines (by decide) (List.forall_mem_cons.mpr ⟨rule, List.forall_mem_cons.mpr
      ⟨count, List.forall_mem_singleton.mpr average⟩⟩), ?_⟩
    by_cases some : 0 < high
    · have limit : toString highThreshold = "15" := by decide +kernel
      simp [footerLines, empty, some, high, String.join_cons, limit, highWarning,
        String.append_assoc]
    · simp [footerLines, empty, some, high, String.join_cons, String.append_assoc]

/-- A report warns if some function is complex. The warning is its last line, and it says how many
are. -/
theorem detailedFooter_warns (style : Style) (file : FileComplexity) :
    let high := countComplex highThreshold file.functions
    ∃ text, ({} : Sink).write (detailedFooter style file) = .ok text ∧
      (Warns text ↔ 0 < high) ∧
      (0 < high → ∃ front, ¬ Warns front ∧ text = front ++ highWarning style high) := by
  intro high
  obtain ⟨front, silent, footer⟩ := footerLines_text style file
  rw [detailedFooter_lines, Output.write_lines]
  refine ⟨_, rfl, ?_⟩
  generalize String.join ((footerLines style file).map (· ++ "\n")) = text at footer
  by_cases some : 0 < high
  · have whole : text = front ++ highWarning style high := by
      rw [if_pos some] at footer
      exact footer
    have warned : Warns text := by
      rw [whole]
      exact warns_append (.inr (highWarning_warns style high))
    exact ⟨iff_of_true warned some, fun _ => ⟨front, not_warns silent, whole⟩⟩
  · have whole : text = front := by
      rw [if_neg some, String.append_empty] at footer
      exact footer
    have quiet : ¬ Warns text := by
      rw [whole]
      exact not_warns silent
    exact ⟨iff_of_false quiet some, fun high => absurd high some⟩

end Report

/-- Every place that sorts scores draws the same lines. The ranges count all functions once, in any
order; the complex functions are those of the two upper ranges; in a comparison of functions with
these scores each upper range has its note; and a report on them warns if an upper range is not
empty, and counts both. -/
theorem thresholds_agree (functions : List FunctionRecord) :
    let d := Distribution.ofFunctions functions
    d.Counts functions ∧
    d.total = functions.length ∧
    (∀ others : List FunctionRecord, others.Perm functions →
      Distribution.ofFunctions others = d) ∧
    countComplex 15 functions = d.high + d.veryHigh ∧
    (∀ rows : List ComparisonRow, rows.map (·.standard) = functions.map (·.complexity) →
      rows.countP (fun row => (Report.tableRow row).getLast? = some "High") = d.high ∧
      rows.countP (fun row => (Report.tableRow row).getLast? = some "Very High") = d.veryHigh) ∧
    ∀ (style : Style) (configUsed : String), ∃ text,
      ({} : Sink).write (Report.detailedFooter style ⟨functions, configUsed⟩) = .ok text ∧
      (Report.Warns text ↔ 0 < d.high + d.veryHigh) ∧
      (0 < d.high + d.veryHigh → ∃ front, ¬ Report.Warns front ∧
        text = front ++ Report.highWarning style (d.high + d.veryHigh)) := by
  intro d
  have counts : d.Counts functions := Distribution.ofFunctions_counts functions
  have complex : countComplex highThreshold functions = d.high + d.veryHigh :=
    Distribution.countComplex_eq functions
  refine ⟨counts, Distribution.ofFunctions_total functions,
    fun others perm => Distribution.ofFunctions_perm perm, complex, ?_, ?_⟩
  · intro rows same
    rw [countP_note same, countP_note same, counts.high, counts.veryHigh]
    simp only [scoreNote_high, scoreNote_veryHigh, and_self]
  · intro style configUsed
    rw [← complex]
    exact Report.detailedFooter_warns style ⟨functions, configUsed⟩

/-- Scores on both sides of every line, the same functions backwards, and a comparison of them. -/
theorem thresholds_agree_bounds :
    let scored (n : Nat) : FunctionRecord := ⟨"f", ⟨1, 0, 2, 4⟩, false, n, []⟩
    let functions := [21, 10, 16, 11, 20, 15].map scored
    let rows := functions.map fun f => (⟨f.name, f.line, 1, f.complexity, 30, []⟩ : ComparisonRow)
    functions.reverse.Perm functions ∧
    Distribution.ofFunctions functions.reverse = ⟨1, 2, 2, 1⟩ ∧
    rows.map (·.standard) = functions.map (·.complexity) ∧
    rows.countP (fun row => (Report.tableRow row).getLast? = some "High") = 2 ∧
    rows.countP (fun row => (Report.tableRow row).getLast? = some "Very High") = 1 ∧
    0 < 2 + 1 ∧
    ∀ style, ∃ front, ¬ Report.Warns front ∧
      ({} : Sink).write (Report.detailedFooter style ⟨functions, "standard"⟩) =
        .ok (front ++ Report.highWarning style 3) := by
  intro scored functions rows
  have ranges : Distribution.ofFunctions functions = ⟨1, 2, 2, 1⟩ := by decide
  have backwards : functions.reverse.Perm functions := functions.reverse_perm
  have same : rows.map (·.standard) = functions.map (·.complexity) := by decide
  obtain ⟨-, -, reordered, -, notes, warns⟩ := thresholds_agree functions
  rw [ranges] at reordered notes warns
  refine ⟨backwards, reordered _ backwards, same, (notes rows same).1, (notes rows same).2,
    by decide, ?_⟩
  intro style
  obtain ⟨text, written, -, counted⟩ := warns style "standard"
  obtain ⟨front, silent, rfl⟩ := counted (by decide)
  exact ⟨front, silent, written⟩

end BranchCount
