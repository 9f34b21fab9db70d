import BranchCount.Proofs.ReportText
import BranchCount.Proofs.Writers

/-!
Reports without colour. They hold no escape and nothing beyond ASCII but what was put into them: the
path, the names and descriptions of what is reported, and the message of a failure.
-/
namespace BranchCount

/-- A character of a plain report on some inputs. -/
def Plain (inputs : List String) (c : Char) : Prop :=
  c.toNat < 128 ∧ c ≠ '\x1b' ∨ ∃ input ∈ inputs, c ∈ input.toList

/-- A text as a report's own words are. -/
def Ascii (text : String) : Prop :=
  Made (fun c => c.toNat < 128 ∧ c ≠ '\x1b') text

-- A string literal is a list of characters. It is checked by `all`, since a statement about every
-- character of a list would be decided by going through all characters there are.
theorem ascii_literal {cs : List Char} (all : cs.all fun c => c.toNat < 128 ∧ c ≠ '\x1b') :
    Ascii (String.ofList cs) := by
  rw [Ascii, made_ofList]
  simpa only [List.all_eq_true, decide_eq_true_eq] using all

/-- The texts that a report on a file is given. -/
def AnalysisResult.inputs : AnalysisResult → List String
  | .success file =>
    file.configUsed ::
      file.functions.flatMap fun f => f.name :: f.contributions.map (·.description)
  | .failure reason => [reason.error]

/-- The texts that a report on a comparison is given. -/
def PresetComparison.inputs (c : PresetComparison) : List String :=
  c.path :: c.rows.flatMap fun row => row.name :: row.breakdown.map (·.1)

section Plain

variable {inputs : List String}

theorem plain_digit (c : Char) (digit : c.isDigit = true) : Plain inputs c := by
  simp only [Char.isDigit, Bool.and_eq_true, decide_eq_true_eq, UInt32.le_iff_toNat_le,
    ge_iff_le] at digit
  have value : c.toNat = c.val.toNat := rfl
  have low : '0'.val.toNat = 48 := rfl
  have high : '9'.val.toNat = 57 := rfl
  refine .inl ⟨by omega, ?_⟩
  rintro rfl
  contradiction

theorem plain_blank : Plain inputs ' ' :=
  .inl (by decide)

theorem plain_literal {text : String} (ascii : Ascii text) : Made (Plain inputs) text :=
  fun c member => .inl (ascii c member)

theorem plain_characters {cs : List Char} (all : cs.all fun c => c.toNat < 128 ∧ c ≠ '\x1b') :
    ∀ c ∈ cs, Plain inputs c :=
  made_ofList.mp (plain_literal (ascii_literal all))

theorem plain_input {input : String} (member : input ∈ inputs) : Made (Plain inputs) input :=
  fun _ here => .inr ⟨input, member, here⟩

@[simp] theorem plain_nat (n : Nat) : Made (Plain inputs) n.repr :=
  made_nat plain_digit n

@[simp] theorem plain_fixed (places : Nat) (x : Float) :
    Made (Plain inputs) (Decimal.fixed places x) :=
  made_fixed plain_digit (plain_literal (ascii_literal (by decide))) places x

@[simp] theorem plain_rule (width : Nat) : Made (Plain inputs) (Layout.rule width) :=
  Layout.made_rule (.inl (by decide)) width

theorem plain_lines {lines : List String} (all : ∀ line ∈ lines, Made (Plain inputs) line) :
    Made (Plain inputs) (String.join (lines.map (· ++ "\n"))) :=
  made_lines (.inl (by decide)) all

end Plain

namespace Style

@[simp] theorem plain_paint (code text : String) : plain.paint code text = text := rfl

@[simp] theorem plain_emoji (picture word : String) : plain.emoji picture word = word := rfl

end Style

namespace Report

variable {inputs : List String}

/- The report on a file. -/

theorem headerLines_plain {path : String} {configUsed : Option String} (known : path ∈ inputs)
    (config : ∀ name ∈ configUsed, name ∈ inputs) :
    ∀ line ∈ headerLines .plain path configUsed, Made (Plain inputs) line := by
  have title := plain_input known
  cases configUsed with
  | none =>
    simp (disch := (apply ascii_literal; decide)) [headerLines, Style.header, plain_literal,
      made_empty, title]
  | some name =>
    have method := plain_input (config name rfl)
    simp (disch := (apply ascii_literal; decide)) [headerLines, Style.header, plain_literal,
      made_empty, title, method]

theorem displayName_plain {f : FunctionRecord} (known : f.name ∈ inputs) :
    Made (Plain inputs) f.displayName := by
  have name := plain_input known
  unfold FunctionRecord.displayName
  split
  · simp (disch := (apply ascii_literal; decide)) [plain_literal, name]
  · exact name

@[simp] theorem scoreText_plain (complexity : Nat) :
    scoreText .plain complexity = toString complexity := by
  simp [scoreText, Style.error, Style.warning, Style.success]

theorem contributionText_plain {c : Contribution} (known : c.description ∈ inputs) :
    Made (Plain inputs) (contributionText c) := by
  have description := plain_input known
  have line : Made (Plain inputs) (Layout.padLeft 4 c.line.repr) :=
    Layout.made_padLeft plain_blank (plain_nat c.line) 4
  simp (disch := (apply ascii_literal; decide)) [contributionText, plain_literal, line, description]

theorem functionLines_plain {f : FunctionRecord} (name : f.name ∈ inputs)
    (descriptions : ∀ c ∈ f.contributions, c.description ∈ inputs) :
    ∀ line ∈ functionLines .plain f, Made (Plain inputs) line := by
  have shown := displayName_plain name
  have points : ∀ line ∈ f.contributions.map contributionText, Made (Plain inputs) line := by
    intro line member
    obtain ⟨c, counted, rfl⟩ := List.mem_map.mp member
    exact contributionText_plain (descriptions c counted)
  unfold functionLines
  rw [List.forall_mem_cons]
  constructor
  · simp (disch := (apply ascii_literal; decide)) [functionText, Style.bold, plain_literal, shown]
  · split
    · simp
    · rw [List.forall_mem_append, List.forall_mem_cons]
      refine ⟨⟨?_, points⟩, ?_⟩
      · simp (disch := (apply ascii_literal; decide)) [Style.dim, plain_literal]
      · simp [made_empty]

theorem footerLines_plain (file : FileComplexity) :
    ∀ line ∈ footerLines .plain file, Made (Plain inputs) line := by
  unfold footerLines
  rw [List.forall_mem_append]
  constructor
  · simp (disch := (apply ascii_literal; decide)) [plain_literal]
  · split
    · simp
    · rw [List.forall_mem_cons]
      constructor
      · simp (disch := (apply ascii_literal; decide)) [plain_literal]
      · split
        · simp (disch := (apply ascii_literal; decide)) [Style.warning, plain_literal]
        · simp

theorem detailedLines_plain (path : String) (result : AnalysisResult) :
    ∀ line ∈ detailedLines .plain path result, Made (Plain (path :: result.inputs)) line := by
  have known : path ∈ path :: result.inputs := List.mem_cons_self
  cases result with
  | success file =>
    have texts (f : FunctionRecord) (found : f ∈ file.functions) (text : String)
        (given : text ∈ f.name :: f.contributions.map (·.description)) :
        text ∈ path :: (AnalysisResult.success file).inputs :=
      List.mem_cons_of_mem _ (List.mem_cons_of_mem _ (List.mem_flatMap.mpr ⟨f, found, given⟩))
    unfold detailedLines
    rw [List.forall_mem_append, List.forall_mem_append]
    refine ⟨⟨headerLines_plain known ?_, ?_⟩, footerLines_plain file⟩
    · rintro name ⟨⟩
      simp [AnalysisResult.inputs]
    · intro line member
      obtain ⟨f, found, here⟩ := List.mem_flatMap.mp member
      have name := texts f found f.name List.mem_cons_self
      have descriptions (c : Contribution) (counted : c ∈ f.contributions) :=
        texts f found c.description (List.mem_cons_of_mem _ (List.mem_map_of_mem counted))
      exact functionLines_plain name descriptions line here
  | failure reason =>
    have message : Made (Plain (path :: (AnalysisResult.failure reason).inputs)) reason.error :=
      plain_input (by simp [AnalysisResult.inputs])
    unfold detailedLines
    rw [List.forall_mem_append]
    refine ⟨headerLines_plain known (by simp), ?_⟩
    simp (disch := (apply ascii_literal; decide)) [Style.error, plain_literal, message]

/- The report on a comparison. -/

theorem shortName_plain {name : String} (known : name ∈ inputs) :
    Made (Plain inputs) (shortName name) := by
  unfold shortName
  split
  · rw [made_append, made_ofList]
    refine ⟨fun c kept => plain_input known c (List.mem_of_mem_take kept), ?_⟩
    exact plain_literal (ascii_literal (by decide))
  · exact plain_input known

theorem breakdownText_plain {parts : List (String × Nat)}
    (labels : ∀ part ∈ parts, part.1 ∈ inputs) : Made (Plain inputs) (breakdownText parts) := by
  apply made_intercalate (plain_literal (ascii_literal (by decide)))
  intro text member
  obtain ⟨part, listed, rfl⟩ := List.mem_map.mp member
  have label := plain_input (labels part listed)
  simp (disch := (apply ascii_literal; decide)) [plain_literal, label]

theorem scoreNote_plain (complexity : Nat) : Made (Plain inputs) (scoreNote complexity) := by
  unfold scoreNote
  split
  · exact plain_literal (ascii_literal (by decide))
  · split
    · exact plain_literal (ascii_literal (by decide))
    · exact made_empty

theorem tableRow_plain {row : ComparisonRow} (name : row.name ∈ inputs)
    (labels : ∀ part ∈ row.breakdown, part.1 ∈ inputs) :
    ∀ text ∈ tableRow row, Made (Plain inputs) text := by
  simp [tableRow, shortName_plain name, breakdownText_plain labels, scoreNote_plain]

theorem asciiFrame_plain : Layout.asciiFrame.Drawn (Plain inputs) where
  top := plain_characters (by decide)
  underHeader := plain_characters (by decide)
  betweenRows := plain_characters (by decide)
  bottom := plain_characters (by decide)
  edge := .inl (by decide)
  separator := .inl (by decide)

theorem comparisonTable_plain {rows : List ComparisonRow}
    (names : ∀ row ∈ rows, row.name ∈ inputs)
    (labels : ∀ row ∈ rows, ∀ part ∈ row.breakdown, part.1 ∈ inputs) :
    Made (Plain inputs) (comparisonTable .plain rows) := by
  apply Layout.made_table asciiFrame_plain plain_blank (.inl (by decide))
  rw [List.forall_mem_cons]
  constructor
  · simp (disch := (apply ascii_literal; decide)) [tableHeader, plain_literal]
  · intro texts member
    obtain ⟨row, listed, rfl⟩ := List.mem_map.mp member
    exact tableRow_plain (names row listed) (labels row listed)

theorem presetText_plain (preset : Preset) : Made (Plain inputs) (presetText preset) := by
  have name : Made (Plain inputs) preset.rules.name := by
    cases preset <;> exact plain_literal (ascii_literal (by decide))
  have description : Made (Plain inputs) preset.rules.description := by
    cases preset <;> exact plain_literal (ascii_literal (by decide))
  have padded := Layout.made_padRight plain_blank name 28
  simp (disch := (apply ascii_literal; decide)) [presetText, plain_literal, padded, description]

theorem rangeText_plain (marker : String) {label : String} (ascii : Ascii label) (count : Nat) :
    Made (Plain inputs) (rangeText .plain marker label count) := by
  have padded : Made (Plain inputs) (Layout.padRight 17 label) :=
    Layout.made_padRight plain_blank (plain_literal ascii) 17
  have number : Made (Plain inputs) (Layout.padLeft 3 count.repr) :=
    Layout.made_padLeft plain_blank (plain_nat count) 3
  simp (disch := (apply ascii_literal; decide)) [rangeText, plain_literal, padded, number]

theorem comparisonLines_plain (c : PresetComparison) :
    ∀ line ∈ comparisonLines .plain c, Made (Plain c.inputs) line := by
  have path : Made (Plain c.inputs) c.path := plain_input List.mem_cons_self
  have texts (row : ComparisonRow) (listed : row ∈ c.rows) (text : String)
      (given : text ∈ row.name :: row.breakdown.map (·.1)) : text ∈ c.inputs :=
    List.mem_cons_of_mem _ (List.mem_flatMap.mpr ⟨row, listed, given⟩)
  have table : Made (Plain c.inputs) (comparisonTable .plain c.rows) := by
    apply comparisonTable_plain
    · intro row listed
      exact texts row listed _ List.mem_cons_self
    · intro row listed part shown
      exact texts row listed _ (List.mem_cons_of_mem _ (List.mem_map_of_mem shown))
  unfold comparisonLines
  simp only [List.forall_mem_append]
  refine ⟨⟨⟨⟨?_, ?_⟩, ?_⟩, ?_⟩, ?_⟩
  · simp (disch := (apply ascii_literal; decide)) [Style.header, plain_literal, made_empty, path]
  · intro line member
    obtain ⟨preset, -, rfl⟩ := List.mem_map.mp member
    exact presetText_plain preset
  · simp (disch := (apply ascii_literal; decide)) [plain_literal, made_empty, table]
  · simp (disch := (apply ascii_literal; decide)) [ranges, rangeText_plain]
  · simp [made_empty]

end Report

/-- Whatever the terminal is, without colour the text of a report is plain: it has no escape, and
beyond ASCII only what the report was given. -/
theorem plain_reports (term : Option String) (onTerminal : Bool) :
    let style : Style := ⟨ColorMode.never.isOn term onTerminal⟩
    (∀ path result, ∃ text, ({} : Sink).write (Report.detailed style path result) = .ok text ∧
      Made (Plain (path :: result.inputs)) text) ∧
    ∀ c : PresetComparison, ∃ text, ({} : Sink).write (Report.sideBySide style c) = .ok text ∧
      Made (Plain c.inputs) text := by
  constructor
  · intro path result
    exact ⟨_, (Report.detailed_delivers _ path result).write_unlimited {},
      plain_lines (Report.detailedLines_plain path result)⟩
  · intro c
    exact ⟨_, (Report.sideBySide_delivers _ c).write_unlimited {},
      plain_lines (Report.comparisonLines_plain c)⟩

end BranchCount
