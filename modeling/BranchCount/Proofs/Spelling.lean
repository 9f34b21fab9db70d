import BranchCount.Proofs.Layering
import BranchCount.Proofs.Paths

/-!
Different spellings of one file. The directories in which an override is looked for are read off the
text of a path, and a path that goes into a directory and out again by `..` looks there too. As long
as the override that is found stands in a directory around the file it is the nearest one, whatever
the spelling; the search goes wrong in no other way.
-/
namespace BranchCount.FileSystem

open BranchCount.Path

structure IsName (name : List Char) : Prop where
  plain : '/' ∉ name
  no_nul : '\x00' ∉ name
  significant : isSignificant name = true
  not_up : name ≠ ['.', '.']
  short : Text.byteCount name ≤ nameLimit

/-- The current directory is there, with all directories around it. -/
structure HasCurrent (fs : FileSystem) : Prop where
  names : ∀ name ∈ fs.current, IsName name
  directories : ∀ place, place <+: fs.current → fs.entry? place = some .directory

def Denotes (fs : FileSystem) (path : String) (place : List (List Char)) : Prop :=
  (∃ contents, fs.find path.toList = .ok (.file contents)) ∧ fs.locate path.toList = .ok place

/-- No place that is searched has a path too long to be looked up. -/
def Searchable (fs : FileSystem) (path : String) : Prop :=
  ∀ dir ∈ fs.searchPath path, Text.byteCount (push dir overrideFileName.toList) ≤ pathLimit

def overrideAt? (fs : FileSystem) (place : List (List Char)) : Option Contents :=
  match fs.entry? (place ++ [overrideFileName.toList]) with
  | some (.file contents) => some contents
  | _ => none

/-- The place of the directory whose override the search takes. -/
def takenFrom? (fs : FileSystem) (path : String) : Option (List (List Char)) :=
  ((fs.searchPath path).find? fun dir => (fs.overrideIn? dir).isSome).map fs.placeOf

/-- The nearest directory around a place that has an override. -/
def nearestAround? (fs : FileSystem) (place : List (List Char)) : Option (List (List Char)) :=
  place.dropLast.inits.reverse.find? fun dir => (fs.overrideAt? dir).isSome

/- Following names one by one. -/

/-- One segment stays, goes up or goes down. -/
theorem follow_cases (place : List (List Char)) (segment : List Char) :
    follow place segment = place ∨ follow place segment = place.dropLast ∨
      follow place segment = place ++ [segment] := by
  unfold follow
  split
  · exact .inl rfl
  · split
    · exact .inr (.inl rfl)
    · exact .inr (.inr rfl)

/-- What lies around a place lies around the place before, unless it is the place itself. -/
theorem around_before {place around : List (List Char)} {segment : List Char}
    (inside : around <+: follow place segment) (proper : around ≠ follow place segment) :
    around <+: place := by
  rcases follow_cases place segment with stay | up | down
  · rwa [stay] at inside
  · rw [up] at inside
    exact inside.trans (List.dropLast_prefix place)
  · rw [down] at inside proper
    rcases List.prefix_concat_iff.mp inside with whole | within
    · exact absurd whole proper
    · exact within

theorem step_ok {fs : FileSystem} {place next : List (List Char)} {segment : List Char}
    (stepped : fs.step place segment = .ok next) :
    fs.entry? place = some .directory ∧ next = follow place segment := by
  unfold step at stepped
  split at stepped
  · cases stepped
  · cases stepped
  · cases stepped
  · rename_i directory
    split at stepped
    · cases stepped
    · exact ⟨directory, (Except.ok.inj stepped).symm⟩

theorem step_directory {fs : FileSystem} {place : List (List Char)} {segment : List Char}
    (directory : fs.entry? place = some .directory) (short : Text.byteCount segment ≤ nameLimit) :
    fs.step place segment = .ok (follow place segment) := by
  rw [step, directory]
  exact if_neg (Nat.not_lt.mpr short)

theorem walk_append {fs : FileSystem} {names more : List (List Char)}
    {start goal : List (List Char)} (walked : (names ++ more).foldlM fs.step start = .ok goal) :
    ∃ middle, names.foldlM fs.step start = .ok middle ∧ more.foldlM fs.step middle = .ok goal := by
  rw [List.foldlM_append] at walked
  cases front : names.foldlM fs.step start with
  | error e =>
    rw [front] at walked
    cases walked
  | ok middle =>
    rw [front] at walked
    exact ⟨middle, rfl, walked⟩

theorem walk_cons {fs : FileSystem} {name : List Char} {rest : List (List Char)}
    {start goal : List (List Char)} (walked : (name :: rest).foldlM fs.step start = .ok goal) :
    fs.entry? start = some .directory ∧ rest.foldlM fs.step (follow start name) = .ok goal := by
  rw [List.foldlM_cons] at walked
  cases first : fs.step start name with
  | error e =>
    rw [first] at walked
    cases walked
  | ok next =>
    rw [first] at walked
    obtain ⟨directory, rfl⟩ := step_ok first
    exact ⟨directory, walked⟩

theorem walk_follow {fs : FileSystem} {names : List (List Char)} {start goal : List (List Char)}
    (walked : names.foldlM fs.step start = .ok goal) : goal = names.foldl follow start := by
  induction names generalizing start with
  | nil => exact (Except.ok.inj walked).symm
  | cons name rest ih => exact ih (walk_cons walked).2

theorem walk_directory {fs : FileSystem} {names : List (List Char)} {name : List Char}
    {more : List (List Char)} {start goal : List (List Char)}
    (walked : (names ++ name :: more).foldlM fs.step start = .ok goal) :
    names.foldlM fs.step start = .ok (names.foldl follow start) ∧
      fs.entry? (names.foldl follow start) = some .directory := by
  obtain ⟨middle, front, back⟩ := walk_append walked
  rw [← walk_follow front]
  exact ⟨front, (walk_cons back).1⟩

/-- All that lies around a place to which a walk from the root leads is a directory. -/
theorem walk_around {fs : FileSystem} {names : List (List Char)} {goal : List (List Char)}
    (walked : names.foldlM fs.step [] = .ok goal) {around : List (List Char)}
    (inside : around <+: goal) (proper : around ≠ goal) : fs.entry? around = some .directory := by
  induction names using List.reverseRecOn generalizing goal around with
  | nil =>
    obtain rfl : [] = goal := Except.ok.inj walked
    exact absurd (List.prefix_nil.mp inside) proper
  | append_singleton front name ih =>
    obtain ⟨middle, before, last⟩ := walk_append walked
    obtain ⟨directory, arrived⟩ := walk_cons last
    obtain rfl : follow middle name = goal := Except.ok.inj arrived
    have before_last := around_before inside proper
    by_cases same : around = middle
    · rw [same]
      exact directory
    · exact ih before before_last same

/- Paths as walks along their names. Segments that name nothing only ask for a directory, and the
next segment asks for the same one. -/

theorem follow_insignificant {segment : List Char} (blank : isSignificant segment = false)
    (place : List (List Char)) : follow place segment = place := by
  have empty : segment = [] ∨ segment = ['.'] := by
    simpa [isSignificant, Classical.or_iff_not_imp_left] using blank
  rw [follow, if_pos empty]

theorem insignificant_short {segment : List Char} (blank : isSignificant segment = false) :
    Text.byteCount segment ≤ nameLimit := by
  have empty : segment = [] ∨ segment = ['.'] := by
    simpa [isSignificant, Classical.or_iff_not_imp_left] using blank
  rcases empty with rfl | rfl <;> decide

theorem walk_insignificant (fs : FileSystem) {blank : List Char}
    (insignificant : isSignificant blank = false) (segment : List Char)
    (rest : List (List Char)) (place : List (List Char)) :
    (blank :: segment :: rest).foldlM fs.step place = (segment :: rest).foldlM fs.step place := by
  cases entry : fs.entry? place with
  | none => simp [List.foldlM_cons, step, entry, bind, Except.bind]
  | some found =>
    cases found with
    | file | closed => simp [List.foldlM_cons, step, entry, bind, Except.bind]
    | directory =>
      rw [List.foldlM_cons, step_directory entry (insignificant_short insignificant),
        follow_insignificant insignificant]
      rfl

theorem walk_significant (fs : FileSystem) (segments : List (List Char)) {last : List Char}
    (named : isSignificant last = true) (place : List (List Char)) :
    (segments ++ [last]).foldlM fs.step place =
      ((segments ++ [last]).filter isSignificant).foldlM fs.step place := by
  induction segments generalizing place with
  | nil => rw [List.nil_append, List.filter_cons_of_pos named, List.filter_nil]
  | cons segment rest ih =>
    by_cases significant : isSignificant segment = true
    · rw [List.cons_append, List.filter_cons_of_pos significant, List.foldlM_cons,
        List.foldlM_cons]
      congr 1
      funext next
      exact ih next
    · rw [List.cons_append, List.filter_cons_of_neg significant, ← ih]
      obtain ⟨first, others, split⟩ : ∃ first others, rest ++ [last] = first :: others :=
        List.exists_cons_of_ne_nil (by simp)
      rw [split]
      exact walk_insignificant fs (by simpa using significant) first others place

theorem foldl_follow_texts (segments : List (List Char)) (place : List (List Char)) :
    segments.foldl follow place = (segments.filter isSignificant).foldl follow place := by
  induction segments generalizing place with
  | nil => rfl
  | cons segment rest ih =>
    by_cases significant : isSignificant segment = true
    · rw [List.filter_cons_of_pos significant, List.foldl_cons, List.foldl_cons, ih]
    · rw [List.filter_cons_of_neg significant, List.foldl_cons,
        follow_insignificant (by simpa using significant), ih]

theorem placeOf_texts (fs : FileSystem) (path : List Char) :
    fs.placeOf path = (texts path).foldl follow (fs.startOf path) :=
  foldl_follow_texts _ _

theorem locate_segments (fs : FileSystem) {path : List Char} (some_path : path ≠ []) :
    fs.locate path = (segments path).foldlM fs.step (fs.startOf path) := by
  by_cases absolute : isAbsolute path = true
  · obtain ⟨rest, rfl⟩ := absolute_cons absolute
    obtain ⟨first, others, split⟩ := List.exists_cons_of_ne_nil (segments_ne_nil rest)
    rw [segments_slash, split, walk_insignificant fs rfl, ← split]
    rfl
  · have start : fs.startOf path = fs.current := if_neg absolute
    unfold locate
    split
    · exact absurd rfl some_path
    · exact absurd rfl absolute
    · rw [start]

theorem locate_texts (fs : FileSystem) {path : List Char} {front : List (List Char)}
    {last : List Char} (split : segments path = front ++ [last])
    (named : isSignificant last = true) :
    fs.locate path = (texts path).foldlM fs.step (fs.startOf path) := by
  have some_path : path ≠ [] := by
    rintro rfl
    have empty : [] = last := by simpa [segments] using congrArg List.getLast? split
    rw [← empty] at named
    cases named
  rw [locate_segments fs some_path, texts, split, walk_significant fs front named]

theorem found_entry {fs : FileSystem} {path : List Char} {entry : Entry}
    {place : List (List Char)} (found : fs.find path = .ok entry)
    (located : fs.locate path = .ok place) : '\x00' ∉ path ∧ fs.entry? place = some entry := by
  unfold find at found
  split at found
  · cases found
  · rename_i plain
    split at found
    · cases found
    · rw [located] at found
      cases here : fs.entry? place with
      | none => simp [here] at found
      | some other =>
        simp only [here, Except.ok.injEq] at found
        exact ⟨by simpa using plain, congrArg some found⟩

theorem fileAt?_eq {fs : FileSystem} {path : List Char} {place : List (List Char)}
    (plain : '\x00' ∉ path) (short : Text.byteCount path ≤ pathLimit)
    (located : fs.locate path = .ok place) :
    fs.fileAt? path =
      match fs.entry? place with
      | some (.file contents) => some contents
      | _ => none := by
  have fits : ¬ pathLimit < Text.byteCount path := Nat.not_lt.mpr short
  cases here : fs.entry? place with
  | none => simp [fileAt?, find, plain, fits, located, here]
  | some entry => cases entry <;> simp [fileAt?, find, plain, fits, located, here]

/-- A path that leads to a file ends in a name. -/
theorem denotes_texts {fs : FileSystem} {path : String} {place : List (List Char)}
    (file : fs.Denotes path place) :
    path.toList ≠ [] ∧ '\x00' ∉ path.toList ∧
      (texts path.toList).foldlM fs.step (fs.startOf path.toList) = .ok place ∧
      ∃ contents, fs.entry? place = some (.file contents) := by
  obtain ⟨⟨contents, found⟩, located⟩ := file
  have some_path : path.toList ≠ [] := by
    intro empty
    rw [empty] at located
    cases located
  obtain ⟨plain, entry⟩ := found_entry found located
  refine ⟨some_path, plain, ?_, contents, entry⟩
  obtain ⟨front, last, split⟩ : ∃ front last, segments path.toList = front ++ [last] := by
    rcases List.eq_nil_or_concat (segments path.toList) with none | ⟨front, last, split⟩
    · exact absurd none (segments_ne_nil _)
    · exact ⟨front, last, by rw [split, List.concat_eq_append]⟩
  by_cases named : isSignificant last = true
  · rw [← locate_texts fs split named]
    exact located
  · rw [locate_segments fs some_path, split] at located
    obtain ⟨middle, _, final⟩ := walk_append located
    obtain ⟨directory, arrived⟩ := walk_cons final
    rw [follow_insignificant (by simpa using named)] at arrived
    obtain rfl : middle = place := Except.ok.inj arrived
    rw [directory] at entry
    cases entry

theorem currentPath_texts {fs : FileSystem} (there : fs.HasCurrent) :
    isAbsolute fs.currentPath = true ∧ texts fs.currentPath = fs.current ∧
      '\x00' ∉ fs.currentPath := by
  have own : fs.current.flatMap texts = fs.current :=
    flatMap_texts fun name member => ⟨(there.names name member).plain,
      (there.names name member).significant⟩
  refine ⟨absolute_foldl_push rfl fs.current, ?_, ?_⟩
  · rw [currentPath, texts_foldl_push, own]
    rfl
  · intro nul
    rcases mem_foldl_push nul with slash | slash | ⟨name, member, inside⟩
    · simp at slash
    · simp at slash
    · exact (there.names name member).no_nul inside

theorem current_walk {fs : FileSystem} (there : fs.HasCurrent) :
    fs.current.foldlM fs.step [] = .ok fs.current := by
  have reach : ∀ names, names <+: fs.current → names.foldlM fs.step [] = .ok names := by
    intro names
    induction names using List.reverseRecOn with
    | nil => exact fun _ => rfl
    | append_singleton front name ih =>
      intro inside
      have proper := there.names name (inside.subset (by simp))
      have before := ih ((List.prefix_append front [name]).trans inside)
      have directory := there.directories front ((List.prefix_append front [name]).trans inside)
      have named : ¬ (name = [] ∨ name = ['.']) := by
        simpa [isSignificant] using proper.significant
      rw [List.foldlM_append, before]
      show [name].foldlM fs.step front = _
      rw [List.foldlM_cons, step_directory directory proper.short, follow, if_neg named,
        if_neg proper.not_up]
      rfl
  exact reach fs.current (List.prefix_refl _)

/-- What the search for a path goes by: a walk from the root to the file, the last name of which is
the file's. -/
structure Trail (fs : FileSystem) (path : String) (place front : List (List Char))
    (last : List Char) : Prop where
  walked : (front ++ [last]).foldlM fs.step [] = .ok place
  directories : (fs.searchPath path).map texts = front.inits.reverse
  absolute : ∀ dir ∈ fs.searchPath path, isAbsolute dir = true
  plain : ∀ dir ∈ fs.searchPath path, '\x00' ∉ dir
  file : ∃ contents, fs.entry? place = some (.file contents)

/-- The names that a path stands for, from the root on. -/
def namesFrom (fs : FileSystem) (path : String) : List (List Char) :=
  (if isAbsolute path.toList then [] else fs.current) ++ texts path.toList

theorem namesFrom_walk {fs : FileSystem} (there : fs.HasCurrent) {path : String}
    {place : List (List Char)} (file : fs.Denotes path place) :
    (fs.namesFrom path).foldlM fs.step [] = .ok place := by
  obtain ⟨-, -, walked, -⟩ := denotes_texts file
  by_cases absolute : isAbsolute path.toList = true
  · rw [startOf, if_pos absolute] at walked
    rw [namesFrom, if_pos absolute]
    exact walked
  · rw [startOf, if_neg absolute] at walked
    rw [namesFrom, if_neg absolute, List.foldlM_append, current_walk there]
    exact walked

theorem denotes_trail {fs : FileSystem} (there : fs.HasCurrent) {path : String}
    {place : List (List Char)} (file : fs.Denotes path place) :
    ∃ front last, fs.namesFrom path = front ++ [last] ∧ fs.Trail path place front last := by
  obtain ⟨some_path, plain, -, contents, entry⟩ := denotes_texts file
  have walked := namesFrom_walk there file
  rcases List.eq_nil_or_concat (fs.namesFrom path) with none | ⟨front, last, split⟩
  · -- Without names the path would lead to the root, which is no file.
    rw [none] at walked
    obtain rfl : [] = place := Except.ok.inj walked
    rw [there.directories [] List.nil_prefix] at entry
    cases entry
  rw [List.concat_eq_append] at split
  obtain ⟨current_absolute, current_texts, current_plain⟩ := currentPath_texts there
  obtain ⟨whole, made, absolute, names⟩ := absolute_texts current_absolute some_path
  rw [current_texts] at names
  obtain ⟨dir, parent, dir_absolute, dir_texts⟩ := parent_texts absolute (names.trans split)
  have search : fs.searchPath path = ancestors dir := by
    rw [searchPath, containing, made, Option.getD_some, parent, Option.getD_some]
  have whole_plain : '\x00' ∉ whole := by
    intro nul
    rcases mem_absolute some_path made nul with current | slash | own
    · exact current_plain current
    · simp at slash
    · exact plain own
  have inside : dir <+: whole := by
    apply prefix_of_ancestors
    rw [parent?] at parent
    exact List.mem_cons_of_mem whole (List.mem_of_head? parent)
  refine ⟨front, last, split, ?_, ?_, ?_, ?_, contents, entry⟩
  · rw [← split]
    exact walked
  · rw [search, ancestors_texts dir_absolute, dir_texts]
  · intro higher member
    rw [search] at member
    exact ancestors_absolute dir_absolute member
  · intro higher member nul
    rw [search] at member
    exact whole_plain (inside.subset ((prefix_of_ancestors member).subset nul))

theorem override_walk {fs : FileSystem} {place : List (List Char)}
    (directory : fs.entry? place = some .directory) :
    [overrideFileName.toList].foldlM fs.step place = .ok (place ++ [overrideFileName.toList]) := by
  have stepped : fs.step place overrideFileName.toList =
      .ok (follow place overrideFileName.toList) := step_directory directory (by decide)
  rw [List.foldlM_cons, stepped]
  rfl

/-- The override file of a directory on the search path is the one at the place of the directory. -/
theorem overrideIn?_eq {fs : FileSystem} {path : String} {place front : List (List Char)}
    {last : List Char} (trail : fs.Trail path place front last) (short : fs.Searchable path)
    {dir : List Char} (member : dir ∈ fs.searchPath path) :
    fs.overrideIn? dir = fs.overrideAt? (fs.placeOf dir) := by
  have absolute := trail.absolute dir member
  have start : fs.startOf dir = [] := if_pos absolute
  have cut : texts dir <+: front := by
    rw [← List.mem_inits, ← List.mem_reverse, ← trail.directories]
    exact List.mem_map_of_mem member
  obtain ⟨more, rfl⟩ := cut
  -- The walk to the file goes through the directory, so a walk to its override arrives.
  obtain ⟨name, others, next⟩ : ∃ name others, more ++ [last] = name :: others :=
    List.exists_cons_of_ne_nil (by simp)
  have walked := trail.walked
  rw [List.append_assoc, next] at walked
  obtain ⟨reached, directory⟩ := walk_directory walked
  obtain ⟨before, ending⟩ : ∃ before, segments (push dir overrideFileName.toList) =
      before ++ [overrideFileName.toList] := segments_push dir (by decide)
  have located : fs.locate (push dir overrideFileName.toList) =
      .ok (fs.placeOf dir ++ [overrideFileName.toList]) := by
    have from_root : fs.startOf (push dir overrideFileName.toList) = [] :=
      if_pos (absolute_push absolute _)
    have own : texts overrideFileName.toList = [overrideFileName.toList] := by decide
    rw [locate_texts fs ending (by decide), from_root, texts_push, own, List.foldlM_append,
      reached, placeOf_texts, start]
    exact override_walk directory
  have plain : '\x00' ∉ push dir overrideFileName.toList := by
    intro nul
    rcases mem_push nul with front_nul | slash | name_nul
    · exact trail.plain dir member front_nul
    · simp at slash
    · revert name_nul
      decide
  rw [overrideIn?, fileAt?_eq plain (short dir member) located]
  rfl

/- The places that a search comes to, seen from the file. -/

/-- The places that a walk along some names comes through, the last first. -/
def visits (names : List (List Char)) : List (List (List Char)) :=
  names.inits.reverse.map fun front => front.foldl follow []

theorem visits_snoc (front : List (List Char)) (name : List Char) :
    visits (front ++ [name]) = follow (front.foldl follow []) name :: visits front := by
  simp [visits]

theorem searchPath_places {fs : FileSystem} {path : String} {place front : List (List Char)}
    {last : List Char} (trail : fs.Trail path place front last) :
    (fs.searchPath path).map fs.placeOf = visits front := by
  rw [visits, ← trail.directories, List.map_map]
  apply List.map_congr_left
  intro dir member
  rw [placeOf_texts, startOf, if_pos (trail.absolute dir member)]
  rfl

/-- A walk to a place comes through every directory around it, a nearer one last. So what it meets
first on the way back is the nearest, if it is around the place at all. -/
theorem find?_visits (holds : List (List Char) → Bool) (names : List (List Char))
    (around : ∀ dir, (visits names).find? holds = some dir → dir <+: names.foldl follow []) :
    (visits names).find? holds = (names.foldl follow []).inits.reverse.find? holds := by
  induction names using List.reverseRecOn with
  | nil => rfl
  | append_singleton front name ih =>
    rw [visits_snoc] at around ⊢
    rw [List.foldl_append, List.foldl_cons, List.foldl_nil] at around ⊢
    generalize place_eq : front.foldl follow [] = place at ih around ⊢
    by_cases here : holds (follow place name) = true
    · rw [List.find?_cons_of_pos here, reverse_inits, List.find?_cons_of_pos here]
    · rw [List.find?_cons_of_neg here] at around ⊢
      have before : ∀ dir, (visits front).find? holds = some dir → dir <+: place := by
        intro dir found
        apply around_before (around dir found)
        rintro rfl
        exact here (List.find?_some found)
      have known := ih before
      rw [known] at around ⊢
      rcases follow_cases place name with stay | up | down
      · rw [stay]
      · rw [up] at around here ⊢
        rcases List.eq_nil_or_concat place with rfl | ⟨outer, inner, rfl⟩
        · rfl
        · rw [List.concat_eq_append, inits_snoc, List.reverse_concat] at around ⊢
          rw [List.dropLast_concat] at around ⊢
          -- The directory that the walk left has no override: it is not around the place.
          have left : ¬ holds (outer ++ [inner]) = true := by
            intro holding
            have inside := around _ (List.find?_cons_of_pos holding)
            have longer := inside.length_le
            rw [List.length_append, List.length_singleton] at longer
            omega
          rw [List.find?_cons_of_neg left]
      · rw [down, inits_snoc, List.reverse_concat, ← down, List.find?_cons_of_neg here]

theorem takenFrom?_visits {fs : FileSystem} {path : String} {place front : List (List Char)}
    {last : List Char} (trail : fs.Trail path place front last) (short : fs.Searchable path) :
    fs.takenFrom? path = (visits front).find? fun dir => (fs.overrideAt? dir).isSome := by
  have same : (fs.searchPath path).find? (fun dir => (fs.overrideIn? dir).isSome) =
      (fs.searchPath path).find? fun dir => (fs.overrideAt? (fs.placeOf dir)).isSome := by
    apply (find?_upTo (fs.searchPath path) _).1
    intro dir member
    rw [overrideIn?_eq trail short (mem_of_mem_upTo member)]
  rw [takenFrom?, same, ← searchPath_places trail, List.find?_map]
  rfl

theorem trail_place {fs : FileSystem} {path : String} {place front : List (List Char)}
    {last : List Char} (trail : fs.Trail path place front last) :
    place.dropLast = front.foldl follow [] := by
  obtain ⟨contents, entry⟩ := trail.file
  obtain ⟨reached, directory⟩ := walk_directory trail.walked
  have arrived : place = follow (front.foldl follow []) last := by
    rw [walk_follow trail.walked, List.foldl_append]
    rfl
  have around : ∀ dir, dir <+: front.foldl follow [] → dir ≠ place := by
    rintro dir inside rfl
    have known : fs.entry? dir = some .directory := by
      by_cases same : dir = front.foldl follow []
      · rw [same]
        exact directory
      · exact walk_around reached inside same
    rw [known] at entry
    cases entry
  rcases follow_cases (front.foldl follow []) last with stay | up | down
  · exact absurd (arrived.trans stay).symm (around _ (List.prefix_refl _))
  · exact absurd (arrived.trans up).symm (around _ (List.dropLast_prefix _))
  · rw [arrived, down, List.dropLast_concat]

theorem takenFrom?_nearest {fs : FileSystem} {path : String} {place front : List (List Char)}
    {last : List Char} (trail : fs.Trail path place front last) (short : fs.Searchable path) :
    fs.takenFrom? path = fs.nearestAround? place ↔
      ∀ dir, fs.takenFrom? path = some dir → dir <+: place.dropLast := by
  constructor
  · intro nearest dir taken
    rw [nearest, nearestAround?] at taken
    exact (List.mem_inits _ _).mp (List.mem_reverse.mp (List.mem_of_find?_eq_some taken))
  · intro around
    rw [takenFrom?_visits trail short] at around ⊢
    rw [trail_place trail] at around
    rw [nearestAround?, trail_place trail]
    exact find?_visits _ front around

theorem follow_grows {names : List (List Char)} (straight : ∀ name ∈ names, name ≠ ['.', '.'])
    (place : List (List Char)) : place <+: names.foldl follow place := by
  induction names generalizing place with
  | nil => exact List.prefix_refl place
  | cons name rest ih =>
    have next : place <+: follow place name := by
      unfold follow
      split
      · exact List.prefix_refl place
      · rw [if_neg (straight name List.mem_cons_self)]
        exact List.prefix_append place [name]
    exact next.trans (ih (fun other member => straight other (List.mem_cons_of_mem name member)) _)

/-- Without `..` a walk comes only through directories around the place it leads to. -/
theorem visits_straight {names : List (List Char)} (straight : ∀ name ∈ names, name ≠ ['.', '.'])
    {dir : List (List Char)} (member : dir ∈ visits names) : dir <+: names.foldl follow [] := by
  obtain ⟨front, cut, rfl⟩ := List.mem_map.mp member
  obtain ⟨more, rfl⟩ := (List.mem_inits _ _).mp (List.mem_reverse.mp cut)
  rw [List.foldl_append]
  exact follow_grows (fun name inside => straight name (List.mem_append_right front inside)) _

theorem nearest?_taken {fs : FileSystem} {path : String} {place front : List (List Char)}
    {last : List Char} (trail : fs.Trail path place front last) (short : fs.Searchable path) :
    fs.nearest? path = (fs.takenFrom? path).bind fs.overrideAt? := by
  rw [nearest?, findSome?_of_find?, takenFrom?]
  cases found : (fs.searchPath path).find? fun dir => (fs.overrideIn? dir).isSome with
  | none => rfl
  | some dir => exact overrideIn?_eq trail short (List.mem_of_find?_eq_some found)

/-- For every spelling of a file, the search takes the override of the nearest directory around the
file exactly if it takes none from a directory that is not around it, and a spelling without `..`
never does. Any two spellings of which this is true give the same rules. -/
theorem resolveRules_spelling (fs : FileSystem) (there : fs.HasCurrent) (path : String)
    (place : List (List Char)) (file : fs.Denotes path place) (short : fs.Searchable path) :
    (fs.takenFrom? path = fs.nearestAround? place ↔
      ∀ dir, fs.takenFrom? path = some dir → dir <+: place.dropLast) ∧
    ((∀ name ∈ texts path.toList, name ≠ ['.', '.']) →
      ∀ dir, fs.takenFrom? path = some dir → dir <+: place.dropLast) ∧
    ∀ other, fs.Denotes other place → fs.Searchable other →
      (∀ dir, fs.takenFrom? path = some dir → dir <+: place.dropLast) →
      (∀ dir, fs.takenFrom? other = some dir → dir <+: place.dropLast) →
        ∀ choice, (fs.resolveRules other choice).value = (fs.resolveRules path choice).value := by
  obtain ⟨front, last, split, trail⟩ := denotes_trail there file
  refine ⟨takenFrom?_nearest trail short, ?_, ?_⟩
  · intro straight dir taken
    rw [takenFrom?_visits trail short] at taken
    rw [trail_place trail]
    apply visits_straight _ (List.mem_of_find?_eq_some taken)
    intro name member
    have inside : name ∈ fs.namesFrom path := by
      rw [split]
      exact List.mem_append_left _ member
    rcases List.mem_append.mp inside with above | own
    · split at above
      · cases above
      · exact (there.names name above).not_up
    · exact straight name own
  · intro other other_file other_short around other_around choice
    obtain ⟨_, _, _, other_trail⟩ := denotes_trail there other_file
    have same : fs.takenFrom? other = fs.takenFrom? path :=
      ((takenFrom?_nearest other_trail other_short).mpr other_around).trans
        ((takenFrom?_nearest trail short).mpr around).symm
    rw [resolveRules_value, resolveRules_value, nearest?_taken other_trail other_short,
      nearest?_taken trail short, same]

theorem hasCurrent_of_root {fs : FileSystem} {name : List Char} (current : fs.current = [name])
    (named : IsName name) (root : fs.entry? [] = some .directory)
    (directory : fs.entry? [name] = some .directory) : fs.HasCurrent where
  names other member := by
    rw [current] at member
    rw [List.mem_singleton.mp member]
    exact named
  directories place inside := by
    rw [current, ← List.mem_inits] at inside
    have known : place = [] ∨ place = [name] := by simpa using inside
    rcases known with rfl | rfl
    · exact root
    · exact directory

/-- A detour through a directory without an override changes nothing. -/
theorem resolveRules_spelling_detour :
    let fs := (((empty ["r".toList]).writeFile "m.py".toList "".toUTF8).writeFile
      ".complexity.json".toList "\x7b\"countWith\": true\x7d".toUTF8).makeDirectory "a".toList
    fs.takenFrom? "m.py" = some ["r".toList] ∧ fs.takenFrom? "a/../m.py" = some ["r".toList] ∧
    (fs.resolveRules "a/../m.py" {}).value = (fs.resolveRules "m.py" {}).value := by
  intro fs
  have there : fs.HasCurrent := hasCurrent_of_root rfl ⟨by decide, by decide, rfl, by decide, by decide⟩
    rfl rfl
  have plain : fs.Denotes "m.py" ["r".toList, "m.py".toList] := ⟨⟨_, rfl⟩, rfl⟩
  have detour : fs.Denotes "a/../m.py" ["r".toList, "m.py".toList] := ⟨⟨_, rfl⟩, rfl⟩
  have taken : fs.takenFrom? "m.py" = some ["r".toList] := by decide +kernel
  have taken' : fs.takenFrom? "a/../m.py" = some ["r".toList] := by decide +kernel
  have short : fs.Searchable "m.py" := by
    unfold Searchable
    decide +kernel
  have short' : fs.Searchable "a/../m.py" := by
    unfold Searchable
    decide +kernel
  refine ⟨taken, taken', ?_⟩
  apply (resolveRules_spelling fs there "m.py" _ plain short).2.2 "a/../m.py" detour short'
  · intro dir found
    rw [taken] at found
    obtain rfl := Option.some.inj found
    decide
  · intro dir found
    rw [taken'] at found
    obtain rfl := Option.some.inj found
    decide

/-- A detour through a directory with an override of its own takes that one, although the file is
not in there: one file has different rules under two spellings. -/
theorem rules_differ_by_spelling :
    let fs := ((empty ["r".toList]).writeFile "m.py".toList "".toUTF8).writeFile
      "sub/.complexity.json".toList "\x7b\"countIf\": false\x7d".toUTF8
    fs.HasCurrent ∧ fs.Denotes "m.py" ["r".toList, "m.py".toList] ∧
    fs.Denotes "sub/../m.py" ["r".toList, "m.py".toList] ∧
    fs.takenFrom? "sub/../m.py" = some ["r".toList, "sub".toList] ∧
    (fs.resolveRules "m.py" {}).value.counts .conditional = true ∧
    (fs.resolveRules "sub/../m.py" {}).value.counts .conditional = false := by
  intro fs
  have there : fs.HasCurrent := hasCurrent_of_root rfl ⟨by decide, by decide, rfl, by decide, by decide⟩
    rfl rfl
  exact ⟨there, ⟨⟨_, rfl⟩, rfl⟩, ⟨⟨_, rfl⟩, rfl⟩, by decide +kernel, by decide +kernel,
    by decide +kernel⟩

end BranchCount.FileSystem
