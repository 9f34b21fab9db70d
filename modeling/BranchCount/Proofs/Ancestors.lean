import BranchCount.Proofs.Paths

/-!
The directories above a path, for paths of every form. A path cut behind one of its components has
the components up to that one, so going from a path to its parent drops the last component, and the
walk upward has one directory for each prefix of the components.
-/
namespace BranchCount.Path

/- How a path starts. Behind its first component stands a slash and then any text; only that text
is divided into names. -/

/-- What the first segment of a relative path stands for. -/
def leading (name : List Char) : Component :=
  if name = ['.'] then .here else .name name

/-- A start of a path that has one component, whatever text follows it. -/
structure Leads (lead : List Char) (first : Piece) : Prop where
  followed : ∀ rest, pieces (lead ++ rest) = first :: names lead.length (segments rest)
  alone : pieces (lead.take first.stop) = [first]
  inside : first.stop ≤ lead.length

@[simp] theorem pieces_nil : pieces [] = [] := rfl

theorem leads_root : Leads ['/'] ⟨.root, 1⟩ where
  followed _ := rfl
  alone := rfl
  inside := Nat.le_refl 1

theorem pieces_relative {path first : List Char} {others : List (List Char)}
    (relative : isAbsolute path = false) (split : segments path = first :: others)
    (some_text : first ≠ []) :
    pieces path = ⟨leading first, first.length⟩ :: names (first.length + 1) others := by
  unfold pieces
  split
  · simp [isAbsolute] at relative
  · rw [split]
    by_cases dot : first = ['.']
    · subst dot
      rfl
    · have named : isSignificant first = true := by simp [isSignificant, some_text, dot]
      split
      · rename_i same
        exact absurd (List.cons.inj same).1 dot
      · rename_i all _ same
        rw [names_cons, if_pos named, leading, if_neg dot]
        simp

theorem pieces_single {name : List Char} (plain : '/' ∉ name) (some_text : name ≠ []) :
    pieces name = [⟨leading name, name.length⟩] := by
  have relative : isAbsolute name = false := by
    cases name with
    | nil => rfl
    | cons c rest => simpa [isAbsolute, eq_comm] using (List.ne_and_not_mem_of_not_mem_cons plain).1
  exact pieces_relative relative (segments_single plain) some_text

theorem leads_name {name : List Char} (plain : '/' ∉ name) (some_text : name ≠ []) :
    Leads (name ++ ['/']) ⟨leading name, name.length⟩ where
  followed rest := by
    have relative : isAbsolute (name ++ '/' :: rest) = false := by
      cases name with
      | nil => exact absurd rfl some_text
      | cons c more =>
        simpa [isAbsolute, eq_comm] using (List.ne_and_not_mem_of_not_mem_cons plain).1
    have split : segments (name ++ '/' :: rest) = name :: segments rest := by
      rw [segments_append_slash, segments_single plain, List.singleton_append]
    rw [List.append_assoc, List.singleton_append, pieces_relative relative split some_text,
      List.length_append, List.length_singleton]
  alone := by rw [List.take_left, pieces_single plain some_text]
  inside := by simp

/-- A path is one component, or has a first component with more text behind it. -/
theorem exists_lead {path : List Char} (some_text : path ≠ []) :
    (∃ first, pieces path = [first] ∧ first.stop = path.length) ∨
      ∃ lead rest first, path = lead ++ rest ∧ Leads lead first := by
  by_cases slash : '/' ∈ path
  · obtain ⟨name, rest, rfl, plain⟩ := List.eq_append_cons_of_mem slash
    right
    by_cases empty : name = []
    · subst empty
      exact ⟨_, rest, _, rfl, leads_root⟩
    · exact ⟨_, rest, _, by rw [List.append_assoc]; rfl, leads_name plain empty⟩
  · exact .inl ⟨_, pieces_single slash some_text, rfl⟩

/- Cutting a path behind a component. -/

/-- The path up to the end of a component has the components up to that one. -/
theorem pieces_take {path : List Char} {j : Nat} {piece : Piece}
    (here : (pieces path)[j]? = some piece) :
    pieces (path.take piece.stop) = (pieces path).take (j + 1) := by
  have some_text : path ≠ [] := by
    rintro rfl
    simp at here
  rcases exists_lead some_text with ⟨first, single, whole⟩ | ⟨lead, rest, first, rfl, leads⟩
  · rw [single] at here ⊢
    cases j with
    | zero =>
      obtain rfl : first = piece := by simpa using here
      rw [whole, List.take_length, single]
      rfl
    | succ j => simp at here
  · rw [leads.followed] at here ⊢
    cases j with
    | zero =>
      obtain rfl : first = piece := by simpa using here
      rw [List.take_append_of_le_length leads.inside, leads.alone]
      rfl
    | succ j =>
      obtain ⟨bound, cut⟩ := names_take rest lead.length (by simpa using here)
      obtain ⟨n, stop⟩ := Nat.exists_eq_add_of_le bound
      rw [stop, Nat.add_sub_cancel_left] at cut
      rw [stop, List.take_length_add_append, leads.followed, cut]
      rfl

theorem components_take {path : List Char} {j : Nat} {piece : Piece}
    (here : (pieces path)[j]? = some piece) :
    components (path.take piece.stop) = (components path).take (j + 1) := by
  rw [components, pieces_take here, List.map_take]
  rfl

theorem names_stop_le (text : List Char) (start : Nat) {piece : Piece}
    (member : piece ∈ names start (segments text)) : piece.stop ≤ start + text.length := by
  induction text using split_induction generalizing start with
  | last name plain =>
    rw [segments_single plain, names_cons] at member
    split at member
    · obtain rfl : piece = ⟨.name name, start + name.length⟩ := by simpa [names] using member
      exact Nat.le_refl _
    · simp [names] at member
  | more name rest plain ih =>
    rw [segments_append_slash, segments_single plain, List.singleton_append, names_cons,
      List.mem_append] at member
    rw [List.length_append, List.length_cons]
    rcases member with first | later
    · split at first
      · obtain rfl : piece = ⟨.name name, start + name.length⟩ := by simpa using first
        show start + name.length ≤ _
        omega
      · cases first
    · have bound := ih _ later
      omega

theorem stop_le {path : List Char} {piece : Piece} (member : piece ∈ pieces path) :
    piece.stop ≤ path.length := by
  by_cases empty : path = []
  · subst empty
    simp at member
  rcases exists_lead empty with ⟨first, single, whole⟩ | ⟨lead, rest, first, rfl, leads⟩
  · rw [single, List.mem_singleton] at member
    exact member ▸ Nat.le_of_eq whole
  · rw [leads.followed, List.mem_cons] at member
    rw [List.length_append]
    rcases member with rfl | later
    · exact Nat.le_add_right_of_le leads.inside
    · exact names_stop_le rest lead.length later

/-- What is cut off a path behind a component leaves the cuts behind earlier ones as they are. -/
theorem take_take_stop {path : List Char} {j : Nat} {piece earlier : Piece}
    (here : (pieces path)[j]? = some piece) (before : earlier ∈ (pieces path).take (j + 1)) :
    (path.take piece.stop).take earlier.stop = path.take earlier.stop := by
  rw [← pieces_take here] at before
  have bound := stop_le before
  rw [List.length_take] at bound
  rw [List.take_take, Nat.min_eq_left (Nat.le_trans bound (Nat.min_le_left _ _))]

theorem isAbsolute_iff (path : List Char) :
    isAbsolute path = true ↔ (components path).head? = some .root := by
  constructor
  · intro absolute
    obtain ⟨rest, rfl⟩ := absolute_cons absolute
    rfl
  · intro root
    by_contra relative
    cases path with
    | nil => simp [components] at root
    | cons c rest =>
      have other : c ≠ '/' := by simpa [isAbsolute] using relative
      obtain ⟨first, others, known⟩ := List.exists_cons_of_ne_nil (segments_ne_nil rest)
      have split := segments_cons other known
      rw [components, pieces_relative (by simpa using relative) split (by simp), List.map_cons,
        List.head?_cons] at root
      unfold leading at root
      split at root <;> cases root

/- The walk upward, one parent after the other. -/

theorem pieces_ne_nil {path : List Char} (some_text : path ≠ []) : pieces path ≠ [] := by
  rcases exists_lead some_text with ⟨first, single, -⟩ | ⟨lead, rest, first, rfl, leads⟩
  · simp [single]
  · simp [leads.followed]

theorem above_cut {path : List Char} {front : List Piece} {piece last : Piece}
    (found : pieces path = front ++ [piece, last]) :
    above path = path.take piece.stop :: above (path.take piece.stop) ∧
      isAbsolute (path.take piece.stop) = isAbsolute path ∧
      components path = components (path.take piece.stop) ++ [last.component] := by
  have here : (pieces path)[front.length]? = some piece := by simp [found]
  have shorter : (pieces path).take (front.length + 1) = front ++ [piece] := by
    simp [found, List.take_append]
  have cut : pieces (path.take piece.stop) = front ++ [piece] := by rw [pieces_take here, shorter]
  have same_root : isAbsolute (path.take piece.stop) = isAbsolute path := by
    apply Bool.eq_iff_iff.mpr
    rw [isAbsolute_iff, isAbsolute_iff, components_take here, List.head?_take]
    simp
  have same_cuts : front.reverse.map (fun p => (path.take piece.stop).take p.stop) =
      front.reverse.map fun p => path.take p.stop := by
    apply List.map_congr_left
    intro earlier member
    apply take_take_stop here
    rw [shorter]
    exact List.mem_append_left _ (List.mem_reverse.mp member)
  refine ⟨?_, same_root, ?_⟩
  · simp only [above, found, cut, same_root]
    simp [same_cuts]
  · rw [components, components, found, cut]
    simp

/-- One step upward. A path is at the top, or it has a parent with one component less, and what is
above it is the parent and what is above that. -/
theorem step_up (path : List Char) :
    (above path = [] ∧ (path = [] ∨ components path = [.root])) ∨
      ∃ up last, above path = up :: above up ∧ isAbsolute up = isAbsolute path ∧
        components path = components up ++ [last] := by
  by_cases empty : path = []
  · subst empty
    exact .inl ⟨rfl, .inl rfl⟩
  obtain ⟨front, last, found⟩ := List.eq_nil_or_concat (pieces path) |>.resolve_left
    (pieces_ne_nil empty)
  rw [List.concat_eq_append] at found
  rcases List.eq_nil_or_concat front with rfl | ⟨front, piece, rfl⟩
  · -- a single component: the root has nothing above it, any other the empty path
    cases absolute : isAbsolute path with
    | true =>
      have root := (isAbsolute_iff path).mp absolute
      refine .inl ⟨?_, .inr ?_⟩
      · simp [above, found, absolute]
      · simpa [components, found] using root
    | false =>
      refine .inr ⟨[], last.component, ?_, rfl, ?_⟩
      · simp [above, found, absolute]
      · simp [components, found]
  · rw [List.concat_eq_append, List.append_assoc] at found
    exact .inr ⟨_, _, above_cut found⟩

/-- Induction along the walk upward. -/
theorem upward_induction {motive : List Char → Prop} (empty : motive [])
    (root : ∀ path, above path = [] → components path = [.root] → motive path)
    (step : ∀ path up last, above path = up :: above up → isAbsolute up = isAbsolute path →
      components path = components up ++ [last] → motive up → motive path)
    (path : List Char) : motive path := by
  rcases step_up path with ⟨top, rfl | single⟩ | ⟨up, last, next, same, shorter⟩
  · exact empty
  · exact root path top single
  · exact step path up last next same shorter (upward_induction empty root step up)
termination_by (components path).length
decreasing_by
  rw [shorter, List.length_append, List.length_singleton]
  exact Nat.lt_succ_self _

theorem ancestors_step {path up : List Char} (next : above path = up :: above up) :
    ancestors path = path :: ancestors up := by
  rw [ancestors, next]
  rfl

/-- The directories of the walk have the prefixes of the components, the longest first; that of an
absolute path ends with the root, that of a relative one with the empty path. -/
theorem ancestors_prefixes (path : List Char) :
    (ancestors path).map components =
      ((components path).inits.drop (if isAbsolute path then 1 else 0)).reverse := by
  induction path using upward_induction with
  | empty => rfl
  | root path top single =>
    have absolute : isAbsolute path = true := (isAbsolute_iff path).mpr (by rw [single]; rfl)
    simp [ancestors, top, absolute, single]
  | step path up last next same shorter ih =>
    have bound : (if isAbsolute path then 1 else 0) ≤ (components up).inits.length := by
      rw [List.length_inits]
      split <;> omega
    rw [ancestors_step next, List.map_cons, ih, same, shorter, inits_snoc,
      List.drop_append_of_le_length bound, List.reverse_append, List.reverse_singleton]
    rfl

theorem ancestors_isChain (path : List Char) :
    (ancestors path).IsChain fun dir up => parent? dir = some up := by
  induction path using upward_induction with
  | empty => exact .singleton []
  | root path top _ =>
    rw [ancestors, top]
    exact .singleton path
  | step path up last next _ _ ih =>
    have parent : parent? path = some up := by rw [parent?, next]; rfl
    rw [ancestors_step next]
    exact .cons_cons parent ih

theorem ancestors_getLast (path : List Char) :
    ∃ top, (ancestors path).getLast? = some top ∧ parent? top = none ∧
      if isAbsolute path then components top = [.root] else top = [] := by
  induction path using upward_induction with
  | empty => exact ⟨[], rfl, rfl, rfl⟩
  | root path top single =>
    have absolute : isAbsolute path = true := (isAbsolute_iff path).mpr (by rw [single]; rfl)
    refine ⟨path, by rw [ancestors, top]; rfl, by rw [parent?, top]; rfl, ?_⟩
    rwa [if_pos absolute]
  | step path up last next same _ ih =>
    obtain ⟨top, ends, highest, form⟩ := ih
    rw [same] at form
    refine ⟨top, ?_, highest, form⟩
    rw [ancestors_step next, ancestors, List.getLast?_cons_cons]
    exact ends

/-- The walk upward starts with the path as it is written, goes from each directory to its parent,
and ends where there is none. Its directories have the prefixes of the components of the path as
their components, each of them once and the longest first, down to the root alone for an absolute
path and to the empty path for a relative one. -/
theorem ancestors_components (path : List Char) :
    (ancestors path).head? = some path ∧
    (ancestors path).IsChain (fun dir up => parent? dir = some up) ∧
    (ancestors path).map components =
      ((components path).inits.drop (if isAbsolute path then 1 else 0)).reverse ∧
    (ancestors path).length = (components path).length + (if isAbsolute path then 0 else 1) ∧
    ∃ top, (ancestors path).getLast? = some top ∧ parent? top = none ∧
      if isAbsolute path then components top = [.root] else top = [] := by
  refine ⟨rfl, ancestors_isChain path, ancestors_prefixes path, ?_, ancestors_getLast path⟩
  have count := congrArg List.length (ancestors_prefixes path)
  rw [List.length_map, List.length_reverse, List.length_drop, List.length_inits] at count
  rw [count]
  split <;> rfl

-- Only the first dot is a component, and slashes go with what is cut off behind them.
example : ancestors "./a//./../b/".toList =
    ["./a//./../b/", "./a//./..", "./a", ".", ""].map String.toList := by
  decide

end BranchCount.Path
