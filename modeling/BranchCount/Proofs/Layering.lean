import BranchCount.Rules.Resolution

/-!
What the rules of a file are made of. A preset from the environment stands alone. Otherwise the
preset that was asked for is overlaid with the contents of one file, the override in the nearest
directory that has one, and nothing else that the file system holds can make a difference.
-/
namespace BranchCount

namespace RuleOverride

def load : Contents → Except OverrideError RuleOverride
  | .refused message => .error (.unreadable (.other message))
  | .bytes data =>
    match String.fromUTF8? data with
    | none => .error (.unreadable .notText)
    | some text =>
      match parse text with
      | .error e => .error (.malformed e)
      | .ok o => .ok o

end RuleOverride

/-- The rules have what the override gives, and what the base has where it gives nothing. -/
structure RuleSet.Overlays (rules base : RuleSet) (o : RuleOverride) : Prop where
  name : rules.name = o.name.getD base.name
  description : rules.description = o.description.getD base.description
  counts : ∀ flag, rules.counts flag = (o.counts flag).getD (base.counts flag)

theorem apply_overlays (base : RuleSet) (o : RuleOverride) : (base.apply o).Overlays base o where
  name := rfl
  description := rfl
  counts _ := rfl

namespace Logged

variable {α β : Type}

@[simp] theorem pure_value (a : α) : (pure a : Logged α).value = a := rfl

@[simp] theorem bind_value (x : Logged α) (f : α → Logged β) :
    (x >>= f).value = (f x.value).value := rfl

end Logged

/-- A list up to the first element of which the test holds, which is still in. -/
def upTo {α : Type} (test : α → Bool) : List α → List α
  | [] => []
  | x :: rest => if test x then [x] else x :: upTo test rest

theorem mem_of_mem_upTo {α : Type} {test : α → Bool} {xs : List α} {x : α}
    (member : x ∈ upTo test xs) : x ∈ xs := by
  induction xs with
  | nil => cases member
  | cons y rest ih =>
    unfold upTo at member
    split at member
    · rw [List.mem_singleton.mp member]
      exact List.mem_cons_self
    · rcases List.mem_cons.mp member with rfl | deeper
      · exact List.mem_cons_self
      · exact List.mem_cons_of_mem y (ih deeper)

/-- A search looks at nothing behind what it finds. -/
theorem find?_upTo {α : Type} {p q : α → Bool} (xs : List α)
    (agree : ∀ x ∈ upTo p xs, q x = p x) :
    xs.find? q = xs.find? p ∧ ∀ x, xs.find? p = some x → x ∈ upTo p xs := by
  induction xs with
  | nil => exact ⟨rfl, fun x found => by cases found⟩
  | cons x rest ih =>
    by_cases here : p x = true
    · rw [upTo, if_pos here] at agree ⊢
      have same := agree x List.mem_cons_self
      rw [List.find?_cons_of_pos here, List.find?_cons_of_pos (same.trans here)]
      exact ⟨rfl, fun y found => Option.some.inj found ▸ List.mem_cons_self⟩
    · rw [upTo, if_neg here] at agree ⊢
      have same := agree x List.mem_cons_self
      have tail := ih fun y hy => agree y (List.mem_cons_of_mem x hy)
      rw [List.find?_cons_of_neg here, List.find?_cons_of_neg (same ▸ here)]
      exact ⟨tail.1, fun y found => List.mem_cons_of_mem x (tail.2 y found)⟩

theorem findSome?_of_find? {α β : Type} (f : α → Option β) (xs : List α) :
    xs.findSome? f = (xs.find? fun x => (f x).isSome).bind f := by
  induction xs with
  | nil => rfl
  | cons x rest ih =>
    cases here : f x with
    | none => simp [here, ih]
    | some b => simp [here]

namespace FileSystem

def fileAt? (fs : FileSystem) (path : List Char) : Option Contents :=
  match fs.find path with
  | .ok (.file contents) => some contents
  | _ => none

/-- The directories in which an override for a file is looked for, the nearest first. -/
def searchPath (fs : FileSystem) (path : String) : List (List Char) :=
  Path.ancestors (Path.containing fs.currentPath path.toList)

def overrideIn? (fs : FileSystem) (dir : List Char) : Option Contents :=
  fs.fileAt? (Path.push dir overrideFileName.toList)

/-- The directories that a search comes to: none behind the first that has an override file. -/
def searched (fs : FileSystem) (path : String) : List (List Char) :=
  upTo (fun dir => (fs.overrideIn? dir).isSome) (fs.searchPath path)

theorem isFile_eq (fs : FileSystem) (path : List Char) :
    fs.isFile path = (fs.fileAt? path).isSome := by
  unfold isFile fileAt?
  cases fs.find path with
  | error e => rfl
  | ok entry => cases entry <;> rfl

theorem find_of_file {fs : FileSystem} {path : List Char} {contents : Contents}
    (file : fs.fileAt? path = some contents) : fs.find path = .ok (.file contents) := by
  unfold fileAt? at file
  split at file
  · rename_i found
    rw [found, Option.some.inj file]
  · cases file

theorem readText_of_file {fs : FileSystem} {path : List Char} {contents : Contents}
    (file : fs.fileAt? path = some contents) :
    fs.readText path =
      match contents with
      | .refused message => .error (.other message)
      | .bytes data =>
        match String.fromUTF8? data with
        | some text => .ok text
        | none => .error .notText := by
  have found := find_of_file file
  cases contents with
  | refused message => simp [readText, found]
  | bytes data => cases text : String.fromUTF8? data <;> simp [readText, found, text]

theorem readOverride_of_file {fs : FileSystem} {path : List Char} {contents : Contents}
    (file : fs.fileAt? path = some contents) :
    fs.readOverride path = RuleOverride.load contents := by
  rw [readOverride, readText_of_file file]
  cases contents with
  | refused message => rfl
  | bytes data =>
    cases text : String.fromUTF8? data with
    | none => simp [RuleOverride.load, text]
    | some t => cases parsed : RuleOverride.parse t <;> simp [RuleOverride.load, text, parsed]

theorem overrideFile?_eq (fs : FileSystem) (path : String) :
    fs.overrideFile? path.toList =
      ((fs.searchPath path).find? fun dir => (fs.overrideIn? dir).isSome).map
        fun dir => Path.push dir overrideFileName.toList := by
  unfold overrideFile? overridePaths searchPath overrideIn?
  rw [List.find?_map]
  simp only [Function.comp_def, isFile_eq]

theorem loadOverride_value (fs : FileSystem) (path : List Char) :
    (fs.loadOverride path).value = (fs.readOverride path).toOption := by
  unfold loadOverride
  split
  · rename_i o loaded
    rw [loaded]
    rfl
  · rename_i e failed
    rw [failed]
    rfl

def nearest? (fs : FileSystem) (path : String) : Option Contents :=
  (fs.searchPath path).findSome? fs.overrideIn?

theorem findOverride_value (fs : FileSystem) (path : String) :
    (fs.findOverride path.toList).value =
      (fs.nearest? path).bind fun contents => (RuleOverride.load contents).toOption := by
  rw [nearest?, findSome?_of_find?, findOverride, overrideFile?_eq]
  cases found : (fs.searchPath path).find? fun dir => (fs.overrideIn? dir).isSome with
  | none => rfl
  | some dir =>
    have holds : (fs.overrideIn? dir).isSome = true := by simpa using List.find?_some found
    obtain ⟨contents, file⟩ := Option.isSome_iff_exists.mp holds
    simp only [Option.map_some, Option.bind_some, file, loadOverride_value]
    rw [readOverride_of_file file]

/-- All that the rules of a file depend on. -/
theorem resolveRules_value (fs : FileSystem) (path : String) (choice : PresetChoice) :
    (fs.resolveRules path choice).value =
      match choice.envPreset.bind Preset.parse? with
      | some preset => preset.rules
      | none =>
        match (fs.nearest? path).bind fun contents => (RuleOverride.load contents).toOption with
        | some o => choice.base.rules.apply o
        | none => choice.base.rules := by
  rw [← findOverride_value]
  unfold resolveRules
  simp only [Logged.bind_value]
  cases choice.envPreset.bind Preset.parse? with
  | some preset => rfl
  | none => cases (fs.findOverride path.toList).value <;> rfl

/-- A search that comes to the same files finds the same override and keeps the same records. -/
theorem findOverride_agree {fs other : FileSystem} {path : String}
    (start : other.searchPath path = fs.searchPath path)
    (agree : ∀ dir ∈ fs.searched path, other.overrideIn? dir = fs.overrideIn? dir) :
    other.findOverride path.toList = fs.findOverride path.toList := by
  have search := find?_upTo (fs.searchPath path) (q := fun dir => (other.overrideIn? dir).isSome)
    fun dir visited => congrArg Option.isSome (agree dir visited)
  rw [findOverride, findOverride, overrideFile?_eq, overrideFile?_eq, start, search.1]
  cases found : (fs.searchPath path).find? fun dir => (fs.overrideIn? dir).isSome with
  | none => rfl
  | some dir =>
    have holds : (fs.overrideIn? dir).isSome = true := by simpa using List.find?_some found
    obtain ⟨contents, file⟩ := Option.isSome_iff_exists.mp holds
    have same : other.overrideIn? dir = some contents := (agree dir (search.2 dir found)).trans file
    simp only [Option.map_some, loadOverride]
    rw [readOverride_of_file file, readOverride_of_file same]

/-- The rules of a file are those of the preset in the environment if it names one. Otherwise they
are those of the preset that was asked for, overlaid with the override in the first directory of
the search path that has one if that can be loaded. File systems that differ anywhere else give the
same rules, and the same records of how they were found. -/
theorem resolveRules_layers (fs : FileSystem) (path : String) (choice : PresetChoice) :
    (∀ preset, choice.envPreset.bind Preset.parse? = some preset →
      (fs.resolveRules path choice).value = preset.rules) ∧
    (choice.envPreset.bind Preset.parse? = none →
      (∀ before dir after contents, fs.searchPath path = before ++ dir :: after →
        (∀ d ∈ before, fs.overrideIn? d = none) → fs.overrideIn? dir = some contents →
          (∀ o, RuleOverride.load contents = .ok o →
            (fs.resolveRules path choice).value.Overlays choice.base.rules o) ∧
          ∀ e, RuleOverride.load contents = .error e →
            (fs.resolveRules path choice).value = choice.base.rules) ∧
      ((∀ dir ∈ fs.searchPath path, fs.overrideIn? dir = none) →
        (fs.resolveRules path choice).value = choice.base.rules)) ∧
    ∀ other : FileSystem, other.searchPath path = fs.searchPath path →
      (∀ dir ∈ fs.searched path, other.overrideIn? dir = fs.overrideIn? dir) →
        other.resolveRules path choice = fs.resolveRules path choice := by
  refine ⟨?_, ?_, ?_⟩
  · intro preset named
    rw [resolveRules_value, named]
  · intro unnamed
    constructor
    · intro before dir after contents split none_before here
      have near : fs.nearest? path = some contents := by
        rw [nearest?, split, List.findSome?_append, List.findSome?_eq_none_iff.mpr none_before]
        simp [here]
      constructor
      · intro o loaded
        rw [resolveRules_value, unnamed, near, Option.bind_some, loaded]
        exact apply_overlays choice.base.rules o
      · intro e failed
        rw [resolveRules_value, unnamed, near, Option.bind_some, failed]
        rfl
    · intro nowhere
      have near : fs.nearest? path = none := List.findSome?_eq_none_iff.mpr nowhere
      rw [resolveRules_value, unnamed, near]
      rfl
  · intro other start agree
    rw [resolveRules, resolveRules, findOverride_agree start agree]

/-- An override one directory above that of the file, with a broken one further up that does not
matter. -/
theorem resolveRules_layers_project :
    let text := "\x7b\"countWith\": true\x7d".toUTF8
    let bad := "\x7b".toUTF8
    let fs := (empty ["r".toList]).writeFile "a/.complexity.json".toList text
    let other := fs.writeFile ".complexity.json".toList bad
    fs.searchPath "a/b/m.py" = ["/r/a/b".toList, "/r/a".toList, "/r".toList, "/".toList] ∧
    (∃ o, RuleOverride.load (.bytes text) = .ok o ∧ o.counts .withBlock = some true ∧
      (fs.resolveRules "a/b/m.py" {}).value.Overlays Preset.standardRules o) ∧
    (other.resolveRules "m.py" {}).value = Preset.standardRules ∧
    other.resolveRules "a/b/m.py" {} = fs.resolveRules "a/b/m.py" {} ∧
    (fs.resolveRules "a/b/m.py" ⟨none, " Strict"⟩).value = Preset.strictRules := by
  intro text bad fs other
  have directories : fs.searchPath "a/b/m.py" =
      ["/r/a/b".toList, "/r/a".toList, "/r".toList, "/".toList] := by decide +kernel
  have flag : (RuleOverride.load (.bytes text)).toOption.map (·.counts .withBlock) =
      some (some true) := by decide +kernel
  have unreadable : (RuleOverride.load (.bytes bad)).toOption.isNone = true := by decide +kernel
  refine ⟨directories, ?_, ?_, ?_, ?_⟩
  · cases loaded : RuleOverride.load (.bytes text) with
    | error e => simp [loaded, Except.toOption] at flag
    | ok o =>
      have overlaid := ((resolveRules_layers fs "a/b/m.py" {}).2.1 rfl).1 ["/r/a/b".toList]
        "/r/a".toList ["/r".toList, "/".toList] (.bytes text) directories (by decide +kernel)
        (by decide +kernel)
      exact ⟨o, rfl, by simpa [loaded, Except.toOption] using flag, overlaid.1 o loaded⟩
  · have broken := ((resolveRules_layers other "m.py" {}).2.1 rfl).1 [] "/r".toList ["/".toList]
      (.bytes bad) (by decide +kernel) (by simp) (by decide +kernel)
    cases failed : RuleOverride.load (.bytes bad) with
    | error e => exact broken.2 e failed
    | ok o => simp [failed, Except.toOption] at unreadable
  · exact (resolveRules_layers fs "a/b/m.py" {}).2.2 other (by decide +kernel) (by decide +kernel)
  · exact (resolveRules_layers fs "a/b/m.py" ⟨none, " Strict"⟩).1 .strict (by decide +kernel)

end FileSystem

end BranchCount
