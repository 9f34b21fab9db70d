import Mathlib.Data.List.Infix
import BranchCount.Files.Path

/-!
The names in a path. All that a path says is the list of its significant segments, those that are
neither empty nor a dot. Joining paths appends these lists, and cutting a path behind a component
takes a prefix, so the directories above an absolute path have the prefixes of its names.
-/
namespace BranchCount.Path

/-- Whether a segment names something. -/
def isSignificant (segment : List Char) : Bool :=
  segment ≠ [] ∧ segment ≠ ['.']

/-- The names in a path, `..` among them. -/
def texts (path : List Char) : List (List Char) :=
  (segments path).filter isSignificant

/- Segments. A text is one segment, or a segment, a slash and a shorter text. -/

theorem segments_ne_nil (path : List Char) : segments path ≠ [] := by
  induction path with
  | nil => simp [segments]
  | cons c rest ih =>
    unfold segments
    split <;> try simp
    split <;> simp

theorem segments_slash (rest : List Char) : segments ('/' :: rest) = [] :: segments rest := by
  simp [segments]

theorem segments_cons {c : Char} (other : c ≠ '/') {rest first : List Char}
    {others : List (List Char)} (known : segments rest = first :: others) :
    segments (c :: rest) = (c :: first) :: others := by
  unfold segments
  split
  · rename_i same
    simp at same
  · rename_i same
    exact absurd (List.cons.inj same).1 other
  · rename_i same
    obtain ⟨rfl, rfl⟩ := List.cons.inj same
    rw [known]

theorem segments_single {name : List Char} (plain : '/' ∉ name) : segments name = [name] := by
  induction name with
  | nil => rfl
  | cons c rest ih =>
    obtain ⟨other, more⟩ := List.ne_and_not_mem_of_not_mem_cons plain
    exact segments_cons other.symm (ih more)

/-- A slash divides the segments on its two sides. -/
theorem segments_append_slash (a b : List Char) :
    segments (a ++ '/' :: b) = segments a ++ segments b := by
  induction a with
  | nil => exact segments_slash b
  | cons c rest ih =>
    by_cases slash : c = '/'
    · subst slash
      rw [List.cons_append, segments_slash, segments_slash, ih, List.cons_append]
    · obtain ⟨first, others, known⟩ := List.exists_cons_of_ne_nil (segments_ne_nil rest)
      rw [List.cons_append, segments_cons slash known]
      rw [known, List.cons_append] at ih
      rw [segments_cons slash ih, List.cons_append]

/-- Induction on the number of slashes. -/
theorem split_induction {motive : List Char → Prop} (last : ∀ name, '/' ∉ name → motive name)
    (more : ∀ name rest, '/' ∉ name → motive rest → motive (name ++ '/' :: rest))
    (path : List Char) : motive path := by
  by_cases slash : '/' ∈ path
  · obtain ⟨name, rest, split, plain⟩ := List.eq_append_cons_of_mem slash
    rw [split]
    exact more name rest plain (split_induction last more rest)
  · exact last path slash
termination_by path.length
decreasing_by
  rw [split, List.length_append, List.length_cons]
  omega

theorem mem_segments_plain {path segment : List Char} (member : segment ∈ segments path) :
    '/' ∉ segment := by
  induction path using split_induction with
  | last name plain =>
    rw [segments_single plain, List.mem_singleton] at member
    exact member ▸ plain
  | more name rest plain ih =>
    rw [segments_append_slash, segments_single plain, List.mem_append, List.mem_singleton] at member
    rcases member with rfl | deeper
    · exact plain
    · exact ih deeper

theorem mem_of_mem_segments {path segment : List Char} (member : segment ∈ segments path) {c : Char}
    (inside : c ∈ segment) : c ∈ path := by
  induction path using split_induction with
  | last name plain =>
    rw [segments_single plain, List.mem_singleton] at member
    exact member ▸ inside
  | more name rest plain ih =>
    rw [segments_append_slash, segments_single plain, List.mem_append, List.mem_singleton] at member
    rcases member with rfl | deeper
    · exact List.mem_append_left _ inside
    · exact List.mem_append_right _ (List.mem_cons_of_mem _ (ih deeper))

/- Names. -/

theorem texts_append_slash (a b : List Char) : texts (a ++ '/' :: b) = texts a ++ texts b := by
  rw [texts, segments_append_slash, List.filter_append]
  rfl

@[simp] theorem texts_nil : texts [] = [] := rfl

theorem texts_slash (rest : List Char) : texts ('/' :: rest) = texts rest :=
  texts_append_slash [] rest

theorem texts_name {name : List Char} (plain : '/' ∉ name) (named : isSignificant name = true) :
    texts name = [name] := by
  rw [texts, segments_single plain, List.filter_cons_of_pos named]
  rfl

/-- One more component appends its names. -/
theorem texts_push (path name : List Char) : texts (push path name) = texts path ++ texts name := by
  unfold push
  split
  · rename_i ending
    rcases (Bool.or_eq_true _ _).mp ending with empty | slash
    · rw [List.isEmpty_iff.mp empty]
      rfl
    · obtain ⟨front, rfl⟩ := List.getLast?_eq_some_iff.mp (of_decide_eq_true slash)
      rw [List.append_assoc, List.singleton_append, texts_append_slash, texts_append_slash,
        texts_nil, List.append_nil]
  · exact texts_append_slash path name

theorem segments_push (path : List Char) {name : List Char} (plain : '/' ∉ name) :
    ∃ front, segments (push path name) = front ++ [name] := by
  unfold push
  split
  · rename_i ending
    rcases (Bool.or_eq_true _ _).mp ending with empty | slash
    · exact ⟨[], by rw [List.isEmpty_iff.mp empty, List.nil_append, segments_single plain]; rfl⟩
    · obtain ⟨front, rfl⟩ := List.getLast?_eq_some_iff.mp (of_decide_eq_true slash)
      refine ⟨segments front, ?_⟩
      rw [List.append_assoc, List.singleton_append, segments_append_slash, segments_single plain]
  · exact ⟨segments path, by rw [segments_append_slash, segments_single plain]⟩

theorem texts_foldl_push (names : List (List Char)) (base : List Char) :
    texts (names.foldl push base) = texts base ++ names.flatMap texts := by
  induction names generalizing base with
  | nil => simp
  | cons name rest ih => rw [List.foldl_cons, ih, texts_push, List.flatMap_cons, List.append_assoc]

/-- Names that came out of a path go into another as they are. -/
theorem flatMap_texts {names : List (List Char)}
    (proper : ∀ name ∈ names, '/' ∉ name ∧ isSignificant name = true) :
    names.flatMap texts = names := by
  induction names with
  | nil => rfl
  | cons name rest ih =>
    have head := proper name List.mem_cons_self
    rw [List.flatMap_cons, texts_name head.1 head.2, List.singleton_append,
      ih fun n hn => proper n (List.mem_cons_of_mem name hn)]

theorem mem_texts {path name : List Char} (member : name ∈ texts path) :
    '/' ∉ name ∧ isSignificant name = true := by
  obtain ⟨inside, named⟩ := List.mem_filter.mp member
  exact ⟨mem_segments_plain inside, named⟩

/- Pieces: names with the place where each of them ends. -/

theorem names_cons (start : Nat) (segment : List Char) (rest : List (List Char)) :
    names start (segment :: rest) =
      (if isSignificant segment then [⟨.name segment, start + segment.length⟩] else []) ++
        names (start + segment.length + 1) rest := by
  by_cases named : isSignificant segment = true
  · have : ¬ (segment = [] ∨ segment = ['.']) := by simpa [isSignificant] using named
    rw [names, if_neg this, if_pos named]
    rfl
  · have : segment = [] ∨ segment = ['.'] := by
      simpa [isSignificant, Classical.or_iff_not_imp_left] using named
    rw [names, if_pos this, if_neg named]
    rfl

theorem names_texts (start : Nat) (segs : List (List Char)) :
    (names start segs).map (·.component) = (segs.filter isSignificant).map .name := by
  induction segs generalizing start with
  | nil => rfl
  | cons segment rest ih =>
    rw [names_cons, List.map_append, ih]
    by_cases named : isSignificant segment = true
    · rw [if_pos named, List.filter_cons_of_pos named]
      rfl
    · rw [if_neg named, List.filter_cons_of_neg named]
      rfl

/-- The text up to the end of a piece has the pieces up to that one. -/
theorem names_take (text : List Char) (start : Nat) {j : Nat} {piece : Piece}
    (here : (names start (segments text))[j]? = some piece) :
    start ≤ piece.stop ∧
      names start (segments (text.take (piece.stop - start))) =
        (names start (segments text)).take (j + 1) := by
  induction text using split_induction generalizing start j with
  | last name plain =>
    rw [segments_single plain, names_cons] at here ⊢
    by_cases named : isSignificant name = true
    · simp only [if_pos named, names, List.append_nil] at here ⊢
      obtain ⟨rfl, rfl⟩ : j = 0 ∧ piece = ⟨.name name, start + name.length⟩ := by
        cases j with
        | zero => simpa [eq_comm] using here
        | succ j => simp at here
      refine ⟨Nat.le_add_right _ _, ?_⟩
      rw [Nat.add_sub_cancel_left, List.take_length, segments_single plain, names_cons, if_pos named]
      rfl
    · rw [if_neg named] at here
      simp [names] at here
  | more name rest plain ih =>
    have cut : ∀ n, (name ++ '/' :: rest).take (name.length + 1 + n) = name ++ '/' :: rest.take n := by
      intro n
      rw [Nat.add_assoc, List.take_length_add_append, Nat.add_comm 1, List.take_succ_cons]
    rw [segments_append_slash, segments_single plain, List.singleton_append, names_cons] at here ⊢
    -- Either the piece is the name in front of the slash, or it lies behind the slash.
    have behind : ∀ {k : Nat},
        (names (start + name.length + 1) (segments rest))[k]? = some piece →
        start ≤ piece.stop ∧
          names start (segments ((name ++ '/' :: rest).take (piece.stop - start))) =
            (if isSignificant name then [⟨.name name, start + name.length⟩] else []) ++
              (names (start + name.length + 1) (segments rest)).take (k + 1) := by
      intro k found
      obtain ⟨bound, pieces⟩ := ih (start + name.length + 1) found
      have far : piece.stop - start =
          name.length + 1 + (piece.stop - (start + name.length + 1)) := by omega
      refine ⟨by omega, ?_⟩
      rw [far, cut, segments_append_slash, segments_single plain, List.singleton_append, names_cons,
        pieces]
    by_cases named : isSignificant name = true
    · simp only [if_pos named, List.singleton_append] at here behind ⊢
      cases j with
      | zero =>
        obtain rfl : ⟨.name name, start + name.length⟩ = piece := by simpa using here
        refine ⟨Nat.le_add_right _ _, ?_⟩
        rw [Nat.add_sub_cancel_left, List.take_left, segments_single plain, names_cons,
          if_pos named]
        rfl
      | succ k => exact behind (by simpa using here)
    · simp only [if_neg named, List.nil_append] at here behind ⊢
      exact behind here

theorem texts_take (text : List Char) (start : Nat) {j : Nat} {piece : Piece}
    (here : (names start (segments text))[j]? = some piece) :
    texts (text.take (piece.stop - start)) = (texts text).take (j + 1) := by
  have cut := congrArg (List.map (·.component)) (names_take text start here).2
  rw [names_texts, List.map_take, names_texts, ← List.map_take] at cut
  exact List.map_injective_iff.mpr (fun _ _ same => Component.name.inj same) cut

/- Absolute paths. -/

theorem absolute_cons {path : List Char} (absolute : isAbsolute path = true) :
    ∃ rest, path = '/' :: rest := by
  cases path with
  | nil => simp [isAbsolute] at absolute
  | cons c rest =>
    have slash : c = '/' := by simpa [isAbsolute] using absolute
    exact ⟨rest, by rw [slash]⟩

theorem absolute_take {path : List Char} (absolute : isAbsolute path = true) {n : Nat}
    (some : 1 ≤ n) : isAbsolute (path.take n) = true := by
  obtain ⟨rest, rfl⟩ := absolute_cons absolute
  obtain ⟨m, rfl⟩ : ∃ m, n = m + 1 := ⟨n - 1, by omega⟩
  rfl

theorem absolute_push {path : List Char} (absolute : isAbsolute path = true) (name : List Char) :
    isAbsolute (push path name) = true := by
  obtain ⟨rest, rfl⟩ := absolute_cons absolute
  unfold push
  split <;> rfl

theorem absolute_foldl_push {base : List Char} (absolute : isAbsolute base = true)
    (names : List (List Char)) : isAbsolute (names.foldl push base) = true := by
  induction names generalizing base with
  | nil => exact absolute
  | cons name rest ih => exact ih (absolute_push absolute name)

/-- An absolute path cut behind each of its components in turn has one more name each time. -/
theorem pieces_texts {path : List Char} (absolute : isAbsolute path = true) :
    (pieces path).map (fun piece => texts (path.take piece.stop)) = (texts path).inits := by
  obtain ⟨rest, rfl⟩ := absolute_cons absolute
  have count : (names 1 (segments rest)).length = (texts rest).length := by
    rw [← List.length_map (·.component), names_texts, List.length_map]
    rfl
  apply List.ext_getElem
  · simp [pieces, texts_slash, count]
  · intro i inside _
    rw [List.getElem_map, List.getElem_inits, texts_slash]
    cases i with
    | zero => rfl
    | succ j =>
      have bound : j < (names 1 (segments rest)).length := by simpa [pieces] using inside
      have found := List.getElem?_eq_getElem bound
      obtain ⟨n, stop⟩ : ∃ n, ((names 1 (segments rest))[j]).stop = n + 1 :=
        ⟨_, (Nat.sub_add_cancel (names_take rest 1 found).1).symm⟩
      have cut := texts_take rest 1 found
      rw [stop, Nat.add_sub_cancel] at cut
      simp only [pieces, List.getElem_cons_succ, stop, List.take_succ_cons, texts_slash, cut]

theorem inits_snoc {α : Type} (xs : List α) (x : α) : (xs ++ [x]).inits = xs.inits ++ [xs ++ [x]] := by
  simp [List.inits_append]

theorem reverse_inits {α : Type} (xs : List α) : xs.inits.reverse = xs :: xs.inits.dropLast.reverse := by
  rcases List.eq_nil_or_concat xs with rfl | ⟨front, last, rfl⟩
  · rfl
  · simp [List.concat_eq_append]

theorem above_texts {path : List Char} (absolute : isAbsolute path = true) :
    (above path).map texts = (texts path).inits.dropLast.reverse := by
  rw [← pieces_texts absolute]
  obtain ⟨rest, rfl⟩ := absolute_cons absolute
  simp [above, pieces, isAbsolute, List.map_dropLast, Function.comp_def]

/-- The directories above an absolute path have the prefixes of its names, the longest first. -/
theorem ancestors_texts {path : List Char} (absolute : isAbsolute path = true) :
    (ancestors path).map texts = (texts path).inits.reverse := by
  rw [ancestors, List.map_cons, above_texts absolute, reverse_inits]

theorem ancestors_absolute {path dir : List Char} (absolute : isAbsolute path = true)
    (member : dir ∈ ancestors path) : isAbsolute dir = true := by
  obtain ⟨rest, rfl⟩ := absolute_cons absolute
  rcases List.mem_cons.mp member with rfl | higher
  · exact absolute
  · obtain ⟨piece, cut, rfl⟩ : ∃ piece ∈ pieces ('/' :: rest),
        ('/' :: rest).take piece.stop = dir := by
      simp only [above, pieces, isAbsolute, List.head?_cons, decide_true, if_true, List.append_nil,
        List.mem_map, List.mem_reverse] at higher
      obtain ⟨piece, shorter, same⟩ := higher
      exact ⟨piece, List.mem_of_mem_dropLast shorter, same⟩
    apply absolute_take absolute
    rcases List.mem_cons.mp cut with rfl | named
    · exact Nat.le_refl 1
    · obtain ⟨j, here⟩ := List.getElem?_of_mem named
      exact (names_take rest 1 here).1

/-- The directory of an absolute path that has a name at its end. -/
theorem parent_texts {path : List Char} (absolute : isAbsolute path = true)
    {front : List (List Char)} {last : List Char} (named : texts path = front ++ [last]) :
    ∃ dir, parent? path = some dir ∧ isAbsolute dir = true ∧ texts dir = front := by
  have dirs := above_texts absolute
  rw [named, inits_snoc, List.dropLast_concat, reverse_inits] at dirs
  cases found : above path with
  | nil => simp [found] at dirs
  | cons dir others =>
    rw [found, List.map_cons] at dirs
    have member : dir ∈ ancestors path := by simp [ancestors, found]
    exact ⟨dir, by rw [parent?, found]; rfl, ancestors_absolute absolute member,
      (List.cons.inj dirs).1⟩

/- What a path is made of. -/

theorem prefix_of_ancestors {path dir : List Char} (member : dir ∈ ancestors path) : dir <+: path := by
  rcases List.mem_cons.mp member with rfl | higher
  · exact List.prefix_refl dir
  · unfold above at higher
    split at higher
    · cases higher
    · rcases List.mem_append.mp higher with cut | empty
      · obtain ⟨piece, _, rfl⟩ := List.mem_map.mp cut
        exact List.take_prefix _ _
      · split at empty
        · cases empty
        · rw [List.mem_singleton.mp empty]
          exact List.nil_prefix

theorem mem_push {path name : List Char} {c : Char} (member : c ∈ push path name) :
    c ∈ path ∨ c = '/' ∨ c ∈ name := by
  unfold push at member
  split at member
  · rcases List.mem_append.mp member with front | back
    · exact .inl front
    · exact .inr (.inr back)
  · rcases List.mem_append.mp member with front | back
    · exact .inl front
    · exact .inr (List.mem_cons.mp back)

theorem mem_foldl_push {names : List (List Char)} {base : List Char} {c : Char}
    (member : c ∈ names.foldl push base) : c ∈ base ∨ c = '/' ∨ ∃ name ∈ names, c ∈ name := by
  induction names generalizing base with
  | nil => exact .inl member
  | cons name rest ih =>
    rcases ih member with base' | slash | ⟨other, inside, deep⟩
    · rcases mem_push base' with front | slash | back
      · exact .inl front
      · exact .inr (.inl slash)
      · exact .inr (.inr ⟨name, List.mem_cons_self, back⟩)
    · exact .inr (.inl slash)
    · exact .inr (.inr ⟨other, List.mem_cons_of_mem name inside, deep⟩)

/-- The name that a component is. -/
def Component.text? : Component → Option (List Char)
  | name text => some text
  | _ => none

theorem filterMap_components (path : List Char) :
    (components path).filterMap Component.text? = texts path := by
  have named : ∀ start segs, ((names start segs).map (·.component)).filterMap Component.text? =
      segs.filter isSignificant := by
    intro start segs
    rw [names_texts, List.filterMap_map]
    exact List.filterMap_some
  unfold components pieces
  split
  · rename_i rest
    rw [List.map_cons, List.filterMap_cons, named, texts_slash]
    rfl
  · split
    · rename_i rest split
      rw [List.map_cons, List.filterMap_cons, named, texts, split]
      rfl
    · rw [named]
      rfl

/-- Where an absolute form of a path starts. -/
def baseOf (current path : List Char) : List Char :=
  if !isAbsolute path then current
  else if path.take 2 = ['/', '/'] && path.take 3 ≠ ['/', '/', '/'] then ['/', '/']
  else ['/']

theorem absolute?_eq (current : List Char) {path : List Char} (some_path : path ≠ []) :
    absolute? current path =
      let whole := (texts path).foldl push (baseOf current path)
      some (if path.getLast? = some '/' then push whole [] else whole) := by
  rw [absolute?, if_neg (by simpa using some_path), ← filterMap_components]
  rfl

/-- A path made absolute has the names of the current directory and its own. -/
theorem absolute_texts {current path : List Char} (absolute : isAbsolute current = true)
    (some_path : path ≠ []) :
    ∃ whole, absolute? current path = some whole ∧ isAbsolute whole = true ∧
      texts whole = (if isAbsolute path then [] else texts current) ++ texts path := by
  have start : isAbsolute (baseOf current path) = true ∧
      texts (baseOf current path) = if isAbsolute path then [] else texts current := by
    unfold baseOf
    cases isAbsolute path with
    | false => exact ⟨absolute, rfl⟩
    | true =>
      simp only [Bool.not_true, Bool.false_eq_true, if_false, if_true]
      split <;> exact ⟨rfl, rfl⟩
  have own : (texts path).flatMap texts = texts path := flatMap_texts fun name => mem_texts
  have joined : texts ((texts path).foldl push (baseOf current path)) =
      (if isAbsolute path then [] else texts current) ++ texts path := by
    rw [texts_foldl_push, own, start.2]
  have known := absolute_foldl_push start.1 (texts path)
  refine ⟨_, absolute?_eq current some_path, ?_⟩
  split
  · refine ⟨absolute_push known [], ?_⟩
    rw [texts_push, joined, texts_nil, List.append_nil]
  · exact ⟨known, joined⟩

theorem mem_absolute {current path whole : List Char} (some_path : path ≠ [])
    (made : absolute? current path = some whole) {c : Char} (member : c ∈ whole) :
    c ∈ current ∨ c = '/' ∨ c ∈ path := by
  rw [absolute?_eq current some_path] at made
  have inside : c ∈ (texts path).foldl push (baseOf current path) ∨ c = '/' := by
    obtain rfl := Option.some.inj made
    split at member
    · rcases mem_push member with front | slash | empty
      · exact .inl front
      · exact .inr slash
      · cases empty
    · exact .inl member
  rcases inside with joined | slash
  · rcases mem_foldl_push joined with base | slash | ⟨name, own, deep⟩
    · unfold baseOf at base
      split at base
      · exact .inl base
      · split at base <;> simp at base <;> exact .inr (.inl base)
    · exact .inr (.inl slash)
    · exact .inr (.inr (mem_of_mem_segments (List.mem_filter.mp own).1 deep))
  · exact .inr (.inl slash)

end BranchCount.Path
