import BranchCount.Proofs.JsonRecords

/-!
The grammar is unambiguous: a text is a way to write one value only. Where a part of a text ends is
known already, because it can be skipped; so two derivations of a text split it at the same places,
and what is left is to compare the parts.
-/
namespace BranchCount.Json

theorem stringText_split {raw raw' s s' rest rest' : List Char} (written : StringText raw s)
    (written' : StringText raw' s') (same : raw ++ '"' :: rest = raw' ++ '"' :: rest') :
    s = s' ∧ rest = rest' := by
  have here := stringBody_text written rest
  rw [same, stringBody_text written' rest'] at here
  cases here
  exact ⟨rfl, rfl⟩

theorem Written.split {v w : Tree} {t t' rest rest' : List Char} (written : Written (.value v) t)
    (written' : Written (.value w) t') (stops : Stops rest) (stops' : Stops rest')
    (same : t ++ rest = t' ++ rest') : t = t' ∧ rest = rest' := by
  have here := skipValue_written (a := []) (by simp [Blank]) written stops
  have there := skipValue_written (a := []) (by simp [Blank]) written' stops'
  rw [List.nil_append] at here there
  rw [same, there] at here
  cases here
  exact ⟨List.append_cancel_right same, rfl⟩

theorem blank_split {a a' s s' : List Char} (blank : Blank a) (blank' : Blank a')
    (same : a ++ s = a' ++ s') : skipBlank s = skipBlank s' := by
  rw [← skipBlank_append blank, same, skipBlank_append blank']

theorem skipBlank_blank {a : List Char} (blank : Blank a) : skipBlank a = [] := by
  have nothing := skipBlank_append blank []
  rwa [List.append_nil] at nothing

theorem skipBlank_written {v : Tree} {t : List Char} (written : Written (.value v) t)
    (rest : List Char) : skipBlank (t ++ rest) = t ++ rest := by
  obtain ⟨c, s, rfl, starts⟩ := written.starts
  exact skipBlank_cons starts.visible.1 (s ++ rest)

/-- Blanks and a value, cut at the same places. -/
theorem value_split {v w : Tree} {a a' t t' rest rest' : List Char} (before : Blank a)
    (before' : Blank a') (written : Written (.value v) t) (written' : Written (.value w) t')
    (stops : Stops rest) (stops' : Stops rest')
    (same : a ++ (t ++ rest) = a' ++ (t' ++ rest')) : t = t' ∧ rest = rest' := by
  have visible := blank_split before before' same
  rw [skipBlank_written written, skipBlank_written written'] at visible
  exact written.split written' stops stops' visible

/-- The text of items or members is not blank. -/
theorem Written.not_blank {p : Phrase} {t : List Char} (written : Written p t) : ¬ Blank t := by
  intro blank
  obtain ⟨c, s, visible, -⟩ := written.opens
  have nothing := visible []
  rw [List.append_nil, skipBlank_blank blank] at nothing
  cases nothing

theorem blank_ne_comma {b b' more : List Char} (blank : Blank b) : b ≠ b' ++ ',' :: more := by
  rintro rfl
  rcases blank ',' (by simp) with h | h | h | h <;> exact absurd h (by decide)

theorem comma_split {b b' more more' : List Char} (blank : Blank b) (blank' : Blank b')
    (same : b ++ ',' :: more = b' ++ ',' :: more') : more = more' := by
  have visible := blank_split blank blank' same
  rw [skipBlank_cons rfl, skipBlank_cons rfl] at visible
  exact (List.cons.inj visible).2

theorem stops_end {b : List Char} (blank : Blank b) : Stops b := by
  have nothing : Stops [] := by simp [Stops]
  have both := stops_blank blank nothing
  rwa [List.append_nil] at both

theorem stops_comma {b : List Char} (blank : Blank b) (more : List Char) :
    Stops (b ++ ',' :: more) :=
  stops_blank blank (stops_cons (.inl rfl) more)

/-- One character for each form that a value can have. -/
def Tree.form : Tree → Char
  | .null => 'n'
  | .bool _ => 't'
  | .number _ => '0'
  | .text _ => '"'
  | .list _ => '['
  | .object _ => '\x7b'

theorem Tree.Starts.form {v : Tree} {c : Char} (starts : v.Starts c) :
    v.form = if c = 'f' then 't' else if c = '-' ∨ c.isDigit = true then '0' else c := by
  cases v with
  | null => cases starts; rfl
  | bool _ => rcases starts with rfl | rfl <;> rfl
  | number _ =>
    rcases starts with rfl | digit
    · rfl
    · simp [Tree.form, digit, digit_ne digit]
  | text _ => cases starts; rfl
  | list _ => cases starts; rfl
  | object _ => cases starts; rfl

/-- The first character tells which form a value has. -/
theorem Written.form {v w : Tree} {t : List Char} (written : Written (.value v) t)
    (written' : Written (.value w) t) : v.form = w.form := by
  obtain ⟨c, s, rfl, starts⟩ := written.starts
  obtain ⟨d, s', same, starts'⟩ := written'.starts
  cases same
  rw [starts.form, starts'.form]

/-- A key and its colon, cut at the same places. -/
theorem key_split {a a' raw raw' key key' b b' rest rest' : List Char} (before : Blank a)
    (before' : Blank a') (string : StringText raw key) (string' : StringText raw' key')
    (between : Blank b) (between' : Blank b')
    (same : a ++ '"' :: (raw ++ '"' :: (b ++ ':' :: rest)) =
      a' ++ '"' :: (raw' ++ '"' :: (b' ++ ':' :: rest'))) : key = key' ∧ rest = rest' := by
  have visible := blank_split before before' same
  rw [skipBlank_cons rfl, skipBlank_cons rfl] at visible
  obtain ⟨keys, tails⟩ := stringText_split string string' (List.cons.inj visible).2
  have colon := blank_split between between' tails
  rw [skipBlank_cons rfl, skipBlank_cons rfl] at colon
  exact ⟨keys, (List.cons.inj colon).2⟩

/-- What holds of a value whenever it holds of the values directly inside it holds of all. -/
theorem Tree.induction {motive : Tree → Prop} (null : motive .null) (bool : ∀ b, motive (.bool b))
    (number : ∀ literal, motive (.number literal)) (text : ∀ s, motive (.text s))
    (list : ∀ vs, (∀ v ∈ vs, motive v) → motive (.list vs))
    (object : ∀ ms, (∀ m ∈ ms, motive m.2) → motive (.object ms)) (v : Tree) : motive v := by
  match v with
  | .null => exact null
  | .bool b => exact bool b
  | .number literal => exact number literal
  | .text s => exact text s
  | .list vs => exact list vs fun v _ => induction null bool number text list object v
  | .object ms => exact object ms fun m _ => induction null bool number text list object m.2
termination_by sizeOf v
decreasing_by
  · have size := List.sizeOf_lt_of_mem ‹_›
    simp only [Tree.list.sizeOf_spec]
    omega
  · have size := List.sizeOf_lt_of_mem ‹_›
    obtain ⟨k, v⟩ := m
    simp only [Prod.mk.sizeOf_spec] at size
    simp only [Tree.object.sizeOf_spec]
    omega

/-- No other value is written like this one. -/
def Tree.Unique (v : Tree) : Prop :=
  ∀ (w : Tree) (t : List Char), Written (.value v) t → Written (.value w) t → v = w

/- Between the brackets is nothing but blanks, or there are items or members. -/

theorem Written.inside_list {vs : List Tree} {t : List Char}
    (written : Written (.value (.list vs)) t) :
    ∃ body, t = '[' :: (body ++ [']']) ∧ (vs = [] ∧ Blank body ∨ Written (.items vs) body) := by
  cases written with
  | emptyList blank => exact ⟨_, rfl, .inl ⟨rfl, blank⟩⟩
  | list items => exact ⟨_, rfl, .inr items⟩

theorem Written.inside_object {ms : List (String × Tree)} {t : List Char}
    (written : Written (.value (.object ms)) t) :
    ∃ body, t = '\x7b' :: (body ++ ['\x7d']) ∧
      (ms = [] ∧ Blank body ∨ Written (.members ms) body) := by
  cases written with
  | emptyObject blank => exact ⟨_, rfl, .inl ⟨rfl, blank⟩⟩
  | object members => exact ⟨_, rfl, .inr members⟩

theorem items_unique {vs ws : List Tree} (each : ∀ v ∈ vs, v.Unique) {s : List Char}
    (written : Written (.items vs) s) (other : Written (.items ws) s) : vs = ws := by
  induction vs generalizing ws s with
  | nil => cases written
  | cons v vs ih =>
    have head := each v List.mem_cons_self
    have others (u : Tree) (member : u ∈ vs) := each u (List.mem_cons_of_mem v member)
    cases written with
    | @lastItem a t b _ before value after =>
      generalize same : a ++ (t ++ b) = s at other
      cases other with
      | lastItem before' value' after' =>
        obtain ⟨rfl, -⟩ :=
          value_split before before' value value' (stops_end after) (stops_end after') same
        rw [head _ _ value value']
      | item before' value' after' _ =>
        have parts :=
          value_split before before' value value' (stops_end after) (stops_comma after' _) same
        exact absurd parts.2 (blank_ne_comma after)
    | @item a t b more _ _ before value after rest =>
      generalize same : a ++ (t ++ (b ++ ',' :: more)) = s at other
      cases other with
      | lastItem before' value' after' =>
        have parts :=
          value_split before before' value value' (stops_comma after _) (stops_end after') same
        exact absurd parts.2.symm (blank_ne_comma after')
      | item before' value' after' rest' =>
        obtain ⟨rfl, commas⟩ :=
          value_split before before' value value' (stops_comma after _) (stops_comma after' _) same
        obtain rfl := comma_split after after' commas
        rw [head _ _ value value', ih others rest rest']

theorem members_unique {ms ns : List (String × Tree)} (each : ∀ m ∈ ms, m.2.Unique) {s : List Char}
    (written : Written (.members ms) s) (other : Written (.members ns) s) : ms = ns := by
  induction ms generalizing ns s with
  | nil => cases written
  | cons m ms ih =>
    obtain ⟨k, v⟩ := m
    have head : v.Unique := each (k, v) List.mem_cons_self
    have others (n : String × Tree) (member : n ∈ ms) := each n (List.mem_cons_of_mem _ member)
    cases written with
    | @lastMember a raw key b c t d _ before string between after value end_ =>
      generalize same : a ++ '"' :: (raw ++ '"' :: (b ++ ':' :: (c ++ (t ++ d)))) = s at other
      cases other with
      | lastMember before' string' between' after' value' end' =>
        obtain ⟨rfl, values⟩ := key_split before before' string string' between between' same
        obtain ⟨rfl, -⟩ :=
          value_split after after' value value' (stops_end end_) (stops_end end') values
        rw [head _ _ value value']
      | member before' string' between' after' value' end' _ =>
        obtain ⟨-, values⟩ := key_split before before' string string' between between' same
        have parts :=
          value_split after after' value value' (stops_end end_) (stops_comma end' _) values
        exact absurd parts.2 (blank_ne_comma end_)
    | @member a raw key b c t d more _ _ before string between after value end_ rest =>
      generalize same :
        a ++ '"' :: (raw ++ '"' :: (b ++ ':' :: (c ++ (t ++ (d ++ ',' :: more))))) = s at other
      cases other with
      | lastMember before' string' between' after' value' end' =>
        obtain ⟨-, values⟩ := key_split before before' string string' between between' same
        have parts :=
          value_split after after' value value' (stops_comma end_ _) (stops_end end') values
        exact absurd parts.2.symm (blank_ne_comma end')
      | member before' string' between' after' value' end' rest' =>
        obtain ⟨rfl, values⟩ := key_split before before' string string' between between' same
        obtain ⟨rfl, commas⟩ :=
          value_split after after' value value' (stops_comma end_ _) (stops_comma end' _) values
        obtain rfl := comma_split end_ end' commas
        rw [head _ _ value value', ih others rest rest']

/-- A text is a way to write one value only. -/
theorem Tree.unique (v : Tree) : v.Unique := by
  induction v using Tree.induction with
  | null =>
    intro w t written other
    have form := written.form other
    cases w with
    | null => rfl
    | _ => simp [Tree.form] at form
  | bool b =>
    intro w t written other
    have form := written.form other
    cases w with
    | bool b' =>
      cases written with
      | yes =>
        generalize same : ['t', 'r', 'u', 'e'] = t at other
        cases other with
        | yes => rfl
        | no => exact absurd same (by decide)
      | no =>
        generalize same : ['f', 'a', 'l', 's', 'e'] = t at other
        cases other with
        | yes => exact absurd same (by decide)
        | no => rfl
    | _ => simp [Tree.form] at form
  | number literal =>
    intro w t written other
    have form := written.form other
    cases w with
    | number literal' =>
      cases written
      cases other
      rfl
    | _ => simp [Tree.form] at form
  | text s =>
    intro w t written other
    have form := written.form other
    cases w with
    | text s' =>
      cases written with
      | @text raw _ string =>
        generalize same : '"' :: (raw ++ ['"']) = t at other
        cases other with
        | text string' =>
          obtain ⟨rfl, -⟩ := stringText_split string string' (List.cons.inj same).2
          rfl
    | _ => simp [Tree.form] at form
  | list vs each =>
    intro w t written other
    have form := written.form other
    cases w with
    | list ws =>
      obtain ⟨body, rfl, inside⟩ := written.inside_list
      obtain ⟨body', same, inside'⟩ := other.inside_list
      obtain rfl := List.append_cancel_right (List.cons.inj same).2
      rcases inside with ⟨rfl, blank⟩ | items
      · rcases inside' with ⟨rfl, -⟩ | items'
        · rfl
        · exact absurd blank items'.not_blank
      · rcases inside' with ⟨-, blank⟩ | items'
        · exact absurd blank items.not_blank
        · rw [items_unique each items items']
    | _ => simp [Tree.form] at form
  | object ms each =>
    intro w t written other
    have form := written.form other
    cases w with
    | object ns =>
      obtain ⟨body, rfl, inside⟩ := written.inside_object
      obtain ⟨body', same, inside'⟩ := other.inside_object
      obtain rfl := List.append_cancel_right (List.cons.inj same).2
      rcases inside with ⟨rfl, blank⟩ | members
      · rcases inside' with ⟨rfl, -⟩ | members'
        · rfl
        · exact absurd blank members'.not_blank
      · rcases inside' with ⟨-, blank⟩ | members'
        · exact absurd blank members.not_blank
        · rw [members_unique each members members']
    | _ => simp [Tree.form] at form

theorem Holds.unique {text : String} {v w : Tree} (holds : Holds text v) (other : Holds text w) :
    v = w := by
  obtain ⟨a, t, b, before, written, after, chars⟩ := holds
  obtain ⟨a', t', b', before', written', after', chars'⟩ := other
  obtain ⟨rfl, -⟩ := value_split before before' written written' (stops_end after)
    (stops_end after') (chars.symm.trans chars')
  exact v.unique w t written written'

end BranchCount.Json
