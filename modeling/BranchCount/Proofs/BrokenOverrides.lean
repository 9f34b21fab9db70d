import BranchCount.Proofs.Failures
import BranchCount.Proofs.Spelling

/-!
Override files that cannot be loaded. The search ends at the nearest override file also if it is
broken. Then the rules, and with them every report, are those of a file system without override
files, and one warning names the file; otherwise there are no warnings at all.
-/
namespace BranchCount

/-- Contents that cannot be read, that are no text, or a text that is no override. -/
def RuleOverride.Broken : Contents → Prop
  | .refused _ => True
  | .bytes data => String.fromUTF8? data = none ∨
    ∃ text e, String.fromUTF8? data = some text ∧ parse text = .error e

theorem RuleOverride.broken_iff (contents : Contents) :
    Broken contents ↔ ∃ e, load contents = .error e := by
  cases contents with
  | refused message => simp [Broken, load]
  | bytes data =>
    cases decoded : String.fromUTF8? data with
    | none => simp [Broken, load, decoded]
    | some text => cases parsed : parse text <;> simp [Broken, load, decoded, parsed]

/- Warnings. -/

namespace Logged

variable {α β : Type}

def warnings (x : Logged α) : List LogRecord :=
  x.records.filter (·.level = .warn)

@[simp] theorem warnings_pure (a : α) : (pure a : Logged α).warnings = [] := rfl

@[simp] theorem warnings_bind (x : Logged α) (f : α → Logged β) :
    (x >>= f).warnings = x.warnings ++ (f x.value).warnings :=
  List.filter_append _ _

@[simp] theorem warnings_note (level : LogLevel) (origin : LogOrigin) (message : String) :
    (note level origin message).warnings =
      if level = .warn then [⟨level, origin, message⟩] else [] := by
  cases level <;> rfl

@[simp] theorem warnings_forM (items : List β) {f : β → Logged Unit}
    (quiet : ∀ b, (f b).warnings = []) : (forM items f).warnings = [] := by
  induction items with
  | nil => rfl
  | cons b rest ih => simp [List.forM_cons, quiet, ih]

end Logged

namespace FileSystem

open BranchCount.Path (push segments)

/-- What is said about an override file that cannot be loaded. -/
def warning (file : List Char) (e : OverrideError) : LogRecord where
  level := .warn
  origin := .resolution
  message := "Failed to load " ++ String.ofList file ++ ": " ++ e.message ++
    ". Using preset defaults."

theorem loadOverride_warnings (fs : FileSystem) (file : List Char) :
    (fs.loadOverride file).warnings =
      match fs.readOverride file with
      | .ok _ => []
      | .error e => [warning file e] := by
  unfold loadOverride
  cases fs.readOverride file <;> simp [warning]

theorem resolveRules_warnings (fs : FileSystem) (path : String) (choice : PresetChoice) :
    (fs.resolveRules path choice).warnings = (fs.findOverride path.toList).warnings := by
  unfold resolveRules
  cases choice.envPreset.bind Preset.parse? <;> simp

theorem analyzeFile_warnings (fs : FileSystem) (parse : ModuleParser) (path : String)
    (rules : RuleSet) :
    (fs.analyzeFile parse path rules).warnings = [] := by
  unfold analyzeFile
  cases fs.parseFile parse path <;> simp

theorem reportAnalysis_warnings (fs : FileSystem) (parse : ModuleParser) (path : String)
    (details : Bool) (choice : PresetChoice) (style : Style) (sink : Sink) :
    (fs.reportAnalysis parse path details choice style sink).warnings =
      (fs.findOverride path.toList).warnings := by
  simp [reportAnalysis, analysisReport, analyzePath, analyzeFile_warnings, resolveRules_warnings]

/- The search. -/

/-- The first directory of the search path that has an override file, and what that holds. -/
def Finds (fs : FileSystem) (path : String) (dir : List Char) (contents : Contents) : Prop :=
  ∃ before after, fs.searchPath path = before ++ dir :: after ∧
    (∀ d ∈ before, fs.overrideIn? d = none) ∧ fs.overrideIn? dir = some contents

/-- No directory of the search path has an override file. -/
def Bare (fs : FileSystem) (path : String) : Prop :=
  ∀ dir ∈ fs.searchPath path, fs.overrideIn? dir = none

section Search

variable {fs : FileSystem} {path : String} {dir : List Char} {contents : Contents}

theorem Finds.nearest (finds : fs.Finds path dir contents) : fs.nearest? path = some contents := by
  obtain ⟨before, after, split, none_before, here⟩ := finds
  rw [nearest?, split, List.findSome?_append, List.findSome?_eq_none_iff.mpr none_before]
  simp [here]

theorem Finds.overrideFile (finds : fs.Finds path dir contents) :
    fs.overrideFile? path.toList = some (push dir overrideFileName.toList) := by
  obtain ⟨before, after, split, none_before, here⟩ := finds
  have passed : before.find? (fun d => (fs.overrideIn? d).isSome) = none := by
    simpa using none_before
  rw [overrideFile?_eq, split, List.find?_append, passed]
  simp [here]

theorem Finds.warnings (finds : fs.Finds path dir contents) :
    (fs.findOverride path.toList).warnings =
      match RuleOverride.load contents with
      | .ok _ => []
      | .error e => [warning (push dir overrideFileName.toList) e] := by
  have file : fs.fileAt? (push dir overrideFileName.toList) = some contents := by
    obtain ⟨before, after, split, none_before, here⟩ := finds
    exact here
  rw [findOverride, finds.overrideFile]
  exact (fs.loadOverride_warnings _).trans (by rw [readOverride_of_file file])

theorem Bare.nearest (bare : fs.Bare path) : fs.nearest? path = none :=
  List.findSome?_eq_none_iff.mpr bare

theorem Bare.warnings (bare : fs.Bare path) : (fs.findOverride path.toList).warnings = [] := by
  have nowhere : (fs.searchPath path).find? (fun d => (fs.overrideIn? d).isSome) = none := by
    simpa [Bare] using bare
  rw [findOverride, overrideFile?_eq, nowhere]
  rfl

/-- What a broken override leaves is what there is without one. -/
theorem Finds.rules (finds : fs.Finds path dir contents) (broken : RuleOverride.Broken contents)
    {other : FileSystem} (bare : other.Bare path) (choice : PresetChoice) :
    (fs.resolveRules path choice).value = (other.resolveRules path choice).value := by
  obtain ⟨e, failed⟩ := (RuleOverride.broken_iff contents).mp broken
  rw [resolveRules_value, resolveRules_value, finds.nearest, bare.nearest, Option.bind_some, failed]
  rfl

end Search

theorem reportAnalysis_agree {fs other : FileSystem} (parse : ModuleParser) {path : String}
    {choice : PresetChoice}
    (rules : (fs.resolveRules path choice).value = (other.resolveRules path choice).value)
    (same : other.readText path.toList = fs.readText path.toList) (details : Bool) (style : Style)
    (sink : Sink) :
    (fs.reportAnalysis parse path details choice style sink).value =
      (other.reportAnalysis parse path details choice style sink).value := by
  have result : (fs.analyzePath parse path choice).value =
      (other.analyzePath parse path choice).value := by
    rw [analyzePath_value, analyzePath_value, rules, parseFile_agree parse same]
  simp only [reportAnalysis, analysisReport, Logged.bind_value, Logged.pure_value, result]

/- The file system without override files. -/

/-- The file system with every file deleted that has the name of an override file. -/
def withoutOverrides (fs : FileSystem) : FileSystem where
  current := fs.current
  entry? place :=
    match fs.entry? place with
    | some (.file contents) =>
      if place.getLast? = some overrideFileName.toList then none else some (.file contents)
    | entry => entry

section Deletion

variable (fs : FileSystem)

theorem withoutOverrides_named (place : List (List Char)) (contents : Contents) :
    fs.withoutOverrides.entry? (place ++ [overrideFileName.toList]) ≠ some (.file contents) := by
  simp only [withoutOverrides]
  split
  · simp
  · rename_i other
    exact other contents

variable {fs}

theorem fileAt?_entry {path : List Char} {contents : Contents}
    (file : fs.fileAt? path = some contents) :
    ∃ place, fs.locate path = .ok place ∧ fs.entry? place = some (.file contents) := by
  have found := find_of_file file
  cases located : fs.locate path with
  | ok place => exact ⟨place, rfl, (found_entry found located).2⟩
  | error e =>
    simp only [find, located] at found
    split at found
    · cases found
    · split at found <;> cases found

theorem locate_override {dir : List Char} {place : List (List Char)}
    (located : fs.locate (push dir overrideFileName.toList) = .ok place) :
    ∃ above, place = above ++ [overrideFileName.toList] := by
  obtain ⟨front, split⟩ : ∃ front, segments (push dir overrideFileName.toList) =
      front ++ [overrideFileName.toList] := Path.segments_push dir (by decide)
  have some_path : push dir overrideFileName.toList ≠ [] := by
    intro empty
    have last := congrArg List.getLast? split
    rw [empty, List.getLast?_concat] at last
    exact absurd last (by decide)
  rw [locate_segments fs some_path, split] at located
  obtain ⟨above, -, last⟩ := walk_append located
  exact ⟨above, (Except.ok.inj (walk_cons last).2).symm⟩

theorem withoutOverrides_bare (fs : FileSystem) (path : String) :
    fs.withoutOverrides.Bare path := by
  intro dir _
  cases found : fs.withoutOverrides.overrideIn? dir with
  | none => rfl
  | some contents =>
    obtain ⟨place, located, file⟩ := fileAt?_entry found
    obtain ⟨above, rfl⟩ := locate_override located
    exact absurd file (fs.withoutOverrides_named above contents)

/-- Nothing around a place has been deleted. -/
def Kept (fs : FileSystem) (place : List (List Char)) : Prop :=
  ∀ around, around <+: place → fs.withoutOverrides.entry? around = fs.entry? around

theorem kept_named {place : List (List Char)}
    (other : place.getLast? ≠ some overrideFileName.toList) :
    fs.withoutOverrides.entry? place = fs.entry? place := by
  simp only [withoutOverrides, if_neg other]
  split
  · rename_i file
    exact file.symm
  · rfl

theorem kept_current (there : fs.HasCurrent) : fs.Kept fs.current := by
  intro around inside
  simp only [withoutOverrides, there.directories around inside]

theorem Kept.follow {place : List (List Char)} (kept : fs.Kept place) {segment : List Char}
    (other : segment ≠ overrideFileName.toList) : fs.Kept (follow place segment) := by
  rcases follow_cases place segment with stay | up | down
  · rwa [stay]
  · rw [up]
    exact fun around inside => kept around (inside.trans (List.dropLast_prefix place))
  · rw [down]
    intro around inside
    rcases List.prefix_concat_iff.mp inside with rfl | within
    · exact kept_named (by simpa using other)
    · exact kept around within

theorem Kept.step {place : List (List Char)} (kept : fs.Kept place) (segment : List Char) :
    fs.withoutOverrides.step place segment = fs.step place segment := by
  rw [FileSystem.step, FileSystem.step, kept place (List.prefix_refl place)]

/-- A walk over other names does not miss what has been deleted. -/
theorem Kept.walk {names : List (List Char)} (others : overrideFileName.toList ∉ names)
    {place : List (List Char)} (kept : fs.Kept place) :
    names.foldlM fs.withoutOverrides.step place = names.foldlM fs.step place ∧
      ∀ goal, names.foldlM fs.step place = .ok goal → fs.Kept goal := by
  induction names generalizing place with
  | nil => exact ⟨rfl, fun goal same => Except.ok.inj same ▸ kept⟩
  | cons name rest ih =>
    obtain ⟨other, more⟩ := List.ne_and_not_mem_of_not_mem_cons others
    rw [List.foldlM_cons, List.foldlM_cons, kept.step]
    cases stepped : fs.step place name with
    | error e => exact ⟨rfl, nofun⟩
    | ok next =>
      obtain ⟨-, rfl⟩ := step_ok stepped
      exact ih more (kept.follow other.symm)

theorem withoutOverrides_readText (there : fs.HasCurrent) {path : List Char}
    (others : overrideFileName.toList ∉ segments path) :
    fs.withoutOverrides.readText path = fs.readText path := by
  by_cases empty : path = []
  · subst empty
    rfl
  have start : fs.Kept (fs.startOf path) := by
    unfold startOf
    split
    · intro around inside
      rw [List.prefix_nil.mp inside]
      exact kept_named (by simp)
    · exact kept_current there
  obtain ⟨same, kept⟩ := start.walk others
  have located : fs.withoutOverrides.locate path = fs.locate path := by
    rw [locate_segments _ empty, locate_segments _ empty]
    exact same
  have found : fs.withoutOverrides.find path = fs.find path := by
    rw [find, find, located]
    cases goal : fs.locate path with
    | error e => rfl
    | ok place =>
      rw [locate_segments fs empty] at goal
      simp only [kept place goal place (List.prefix_refl place)]
  rw [readText, readText, found]

end Deletion

/-- These are the warnings of finding the rules, and of every report. -/
def Warns (fs : FileSystem) (path : String) (choice : PresetChoice) (warnings : List LogRecord) :
    Prop :=
  (fs.resolveRules path choice).warnings = warnings ∧
    ∀ parse details style sink,
      (fs.reportAnalysis parse path details choice style sink).warnings = warnings

theorem warns_findOverride (fs : FileSystem) (path : String) (choice : PresetChoice) :
    fs.Warns path choice (fs.findOverride path.toList).warnings :=
  ⟨fs.resolveRules_warnings path choice, fun parse details style sink =>
    fs.reportAnalysis_warnings parse path details choice style sink⟩

/-- A path is treated as in another file system: by the rules there, and with the report there if
the file is the same. -/
structure TreatedAs (fs other : FileSystem) (path : String) (choice : PresetChoice) : Prop where
  rules : (fs.resolveRules path choice).value = (other.resolveRules path choice).value
  result : ∀ parse, (fs.analyzePath parse path choice).value =
    (fs.analyzeFile parse path (other.resolveRules path choice).value).value
  report : other.readText path.toList = fs.readText path.toList → ∀ parse details style sink,
    (fs.reportAnalysis parse path details choice style sink).value =
      (other.reportAnalysis parse path details choice style sink).value

theorem treatedAs_of_rules {fs other : FileSystem} {path : String} {choice : PresetChoice}
    (rules : (fs.resolveRules path choice).value = (other.resolveRules path choice).value) :
    fs.TreatedAs other path choice where
  rules := rules
  result parse := by rw [analyzePath, Logged.bind_value, rules]
  report same parse details style sink := reportAnalysis_agree parse rules same details style sink

/-- A nearest override that is broken counts as none, although others may follow: the file is
treated as in any file system where the search finds nothing, and one warning names the override.
Deleting all override files is such a file system, and the file is still the same there unless its
own path leads through one. A nearest override that is not broken, or none, gives no warning. -/
theorem broken_override_ignored (fs : FileSystem) (path : String) (choice : PresetChoice) :
    (∀ dir contents, fs.Finds path dir contents → RuleOverride.Broken contents →
      (∃ e, RuleOverride.load contents = .error e ∧
        fs.Warns path choice [warning (push dir overrideFileName.toList) e]) ∧
      (∀ other : FileSystem, other.Bare path → fs.TreatedAs other path choice) ∧
      fs.TreatedAs fs.withoutOverrides path choice ∧
      (fs.HasCurrent → overrideFileName.toList ∉ segments path.toList →
        fs.withoutOverrides.readText path.toList = fs.readText path.toList)) ∧
    (∀ dir contents, fs.Finds path dir contents → ¬ RuleOverride.Broken contents →
      fs.Warns path choice []) ∧
    (fs.Bare path → fs.Warns path choice []) := by
  have warns := fs.warns_findOverride path choice
  refine ⟨?broken, ?loaded, ?bare⟩
  case broken =>
    intro dir contents finds broken
    have treated (other : FileSystem) (bare : other.Bare path) : fs.TreatedAs other path choice :=
      treatedAs_of_rules (finds.rules broken bare choice)
    refine ⟨?_, treated, treated _ (fs.withoutOverrides_bare path), fun there others =>
      withoutOverrides_readText there others⟩
    obtain ⟨e, failed⟩ := (RuleOverride.broken_iff contents).mp broken
    rw [finds.warnings, failed] at warns
    exact ⟨e, failed, warns⟩
  case loaded =>
    intro dir contents finds sound
    cases loaded : RuleOverride.load contents with
    | error e => exact absurd ((RuleOverride.broken_iff contents).mpr ⟨e, loaded⟩) sound
    | ok o =>
      rw [finds.warnings, loaded] at warns
      exact warns
  case bare =>
    intro bare
    rw [bare.warnings] at warns
    exact warns

/-- A broken override beside the file and a good one above it, which another file uses. -/
theorem broken_override_ignored_nested :
    let bad := "\x7b not json".toUTF8
    let good := "\x7b\"countIf\": false\x7d".toUTF8
    let fs := (((empty ["r".toList]).writeFile "a/m.py".toList "".toUTF8).writeFile
      "a/.complexity.json".toList bad).writeFile ".complexity.json".toList good
    (∃ e, RuleOverride.load (.bytes bad) = .error e ∧
      fs.Warns "a/m.py" {} [warning "/r/a/.complexity.json".toList e]) ∧
    (fs.resolveRules "a/m.py" {}).value = (fs.withoutOverrides.resolveRules "a/m.py" {}).value ∧
    (∀ details style sink, (fs.reportAnalysis parseModule "a/m.py" details {} style sink).value =
      (fs.withoutOverrides.reportAnalysis parseModule "a/m.py" details {} style sink).value) ∧
    fs.Warns "n.py" {} [] ∧ fs.withoutOverrides.Warns "n.py" {} [] := by
  intro bad good fs
  have there : fs.HasCurrent :=
    hasCurrent_of_root rfl ⟨by decide, by decide, rfl, by decide, by decide⟩ rfl rfl
  have finds : fs.Finds "a/m.py" "/r/a".toList (.bytes bad) :=
    ⟨[], ["/r".toList, "/".toList], by decide +kernel, by simp, by decide +kernel⟩
  have finds' : fs.Finds "n.py" "/r".toList (.bytes good) :=
    ⟨[], ["/".toList], by decide +kernel, by simp, by decide +kernel⟩
  have unreadable : (RuleOverride.load (.bytes bad)).toOption.isNone = true := by decide +kernel
  have readable : (RuleOverride.load (.bytes good)).toOption.isSome = true := by decide +kernel
  have broken : RuleOverride.Broken (.bytes bad) := by
    rw [RuleOverride.broken_iff]
    cases loaded : RuleOverride.load (.bytes bad) with
    | error e => exact ⟨e, rfl⟩
    | ok o => simp [loaded, Except.toOption] at unreadable
  have sound : ¬ RuleOverride.Broken (.bytes good) := by
    rw [RuleOverride.broken_iff]
    rintro ⟨e, failed⟩
    simp [failed, Except.toOption] at readable
  obtain ⟨warned, -, deleted, same⟩ :=
    (broken_override_ignored fs "a/m.py" {}).1 "/r/a".toList _ finds broken
  refine ⟨warned, deleted.rules, deleted.report (same there (by decide +kernel)) _, ?_, ?_⟩
  · exact (broken_override_ignored fs "n.py" {}).2.1 "/r".toList _ finds' sound
  · exact (broken_override_ignored fs.withoutOverrides "n.py" {}).2.2
      (fs.withoutOverrides_bare "n.py")

end FileSystem

end BranchCount
