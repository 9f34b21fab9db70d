import BranchCount.Proofs.JsonSoundness
import BranchCount.Proofs.JsonUnambiguous

/-!
What records can be read from. If every field reads values of the grammar only, a text that is
decoded is an object, with whatever members besides the fields, or it is a list of values.
-/
namespace BranchCount.Json

/-- The text is one value of the form, with blanks around it. -/
def HasForm (text : String) (form : Form) : Prop :=
  ∃ a t b, Blank a ∧ Formed (.value form) t ∧ Blank b ∧ text.toList = a ++ (t ++ b)

/- What decoders take. -/

/-- Whatever the decoder reads is a value of the grammar. -/
def Consumes {α : Type} (decoder : Decoder α) : Prop :=
  ∀ ⦃s rest : List Char⦄ ⦃a : α⦄, decoder s = .ok (a, rest) →
    ∃ b v t, s = b ++ (t ++ rest) ∧ Blank b ∧ Written (.value v) t

theorem consumes_bool : Consumes .bool := by
  intro s rest flag read
  obtain ⟨b, blank, split⟩ := skipBlank_split s
  rw [Decoder.bool] at read
  split at read
  · rename_i same
    obtain ⟨behind, letters, result⟩ := bind_eq_ok.mp read
    cases result
    exact ⟨b, _, _, by rw [split, same, word_sound letters]; rfl, blank, .yes⟩
  · rename_i same
    obtain ⟨behind, letters, result⟩ := bind_eq_ok.mp read
    cases result
    exact ⟨b, _, _, by rw [split, same, word_sound letters]; rfl, blank, .no⟩
  · exact absurd read mismatch_ne_ok

theorem consumes_text (expected : String) : Consumes (.text expected) := by
  intro s rest given read
  obtain ⟨b, blank, split⟩ := skipBlank_split s
  rw [Decoder.text] at read
  split at read
  · rename_i same
    obtain ⟨⟨text, behind⟩, body, result⟩ := bind_eq_ok.mp read
    cases result
    obtain ⟨raw, whole, written⟩ := stringBody_sound body
    exact ⟨b, _, _, by rw [split, same, whole]; simp, blank, .text written⟩
  · exact absurd read mismatch_ne_ok

theorem Consumes.optional {α : Type} {decoder : Decoder α} (consumes : Consumes decoder) :
    Consumes decoder.optional := by
  intro s rest given read
  rw [Decoder.optional] at read
  split at read
  · rename_i same
    obtain ⟨b, blank, split⟩ := skipBlank_split s
    obtain ⟨behind, letters, result⟩ := bind_eq_ok.mp read
    cases result
    exact ⟨b, _, _, by rw [split, same, word_sound letters]; rfl, blank, .null⟩
  · obtain ⟨⟨a, behind⟩, value, result⟩ := bind_eq_ok.mp read
    cases result
    exact consumes value

theorem Consumes.map {α β : Type} {decoder : Decoder α} (consumes : Consumes decoder) (f : α → β) :
    Consumes fun s => do
      let (a, rest) ← decoder s
      return (f a, rest) := by
  intro s rest b read
  obtain ⟨⟨a, behind⟩, value, result⟩ := bind_eq_ok.mp read
  cases result
  exact consumes value

theorem leading_key {a raw key b c : List Char} (before : Blank a) (string : StringText raw key)
    (between : Blank b) (after : Blank c) :
    Leading .object (a ++ '"' :: (raw ++ '"' :: (b ++ ':' :: c))) :=
  ⟨a, raw, b, c, rfl, before, string.escaped, between, after⟩

/-- Values of the grammar have a form. -/
theorem Written.formed {p : Phrase} {t : List Char} (written : Written p t) :
    match p with
    | .value _ => ∃ form, Formed (.value form) t
    | .items _ => Formed (.inside .list) t
    | .members _ => Formed (.inside .object) t := by
  induction written with
  | null => exact ⟨_, .null⟩
  | yes => exact ⟨_, .yes⟩
  | no => exact ⟨_, .no⟩
  | number numeral => exact ⟨_, .number numeral⟩
  | text string => exact ⟨_, .string string.escaped⟩
  | emptyList blank => exact ⟨Bracket.list.form, .empty blank⟩
  | list _ ih => exact ⟨Bracket.list.form, .filled ih⟩
  | emptyObject blank => exact ⟨Bracket.object.form, .empty blank⟩
  | object _ ih => exact ⟨Bracket.object.form, .filled ih⟩
  | lastItem before _ after ih =>
    obtain ⟨form, value⟩ := ih
    exact .last before value after
  | item before _ after _ ih others =>
    obtain ⟨form, value⟩ := ih
    exact .more before value after others
  | lastMember before key between after _ end_ ih =>
    obtain ⟨form, value⟩ := ih
    have leads := leading_key before key between after
    simpa using Formed.last leads value end_
  | member before key between after _ end_ _ ih others =>
    obtain ⟨form, value⟩ := ih
    have leads := leading_key before key between after
    simpa using Formed.more leads value end_ others

/- Objects. -/

theorem colon_sound {s rest : List Char} (read : colon s = .ok rest) :
    ∃ b, Blank b ∧ s = b ++ ':' :: rest := by
  obtain ⟨b, blank, split⟩ := skipBlank_split s
  unfold colon at read
  split at read
  · rename_i same
    cases read
    exact ⟨b, blank, by rw [split, same]⟩
  · cases read
  · cases read

/-- In front of a member stand what separates it from the one before and its key. -/
theorem nextKey_cases {first : Bool} {s : List Char} {next : Option (String × List Char)}
    (read : nextKey first s = .ok next) :
    (next = none ∧ ∃ b rest, Blank b ∧ s = b ++ '\x7d' :: rest) ∨
      ∃ l a raw key rest, next = some (String.ofList key, rest) ∧ Separates first l ∧ Blank a ∧
        StringText raw key ∧ s = l ++ (a ++ '"' :: (raw ++ '"' :: rest)) := by
  obtain ⟨a, blank, split⟩ := skipBlank_split s
  have keyed {t : List Char} (read : (stringBody t >>= fun p =>
      pure (some (String.ofList p.1, p.2))) = .ok next) :
      ∃ raw key rest, next = some (String.ofList key, rest) ∧ StringText raw key ∧
        t = raw ++ '"' :: rest := by
    obtain ⟨⟨key, rest⟩, body, result⟩ := bind_eq_ok.mp read
    obtain ⟨raw, whole, written⟩ := stringBody_sound body
    cases result
    exact ⟨raw, key, rest, rfl, written, whole⟩
  unfold nextKey at read
  split at read
  · cases read
  · rename_i same
    cases read
    exact .inl ⟨rfl, a, _, blank, by rw [split, same]⟩
  · rename_i c t _ same
    rw [same] at split
    split at read
    · rename_i start
      split at read
      · rename_i quote
        obtain ⟨raw, key, rest, found, written, whole⟩ := keyed read
        refine .inr ⟨[], a, raw, key, rest, found, by rw [start]; rfl, blank, written, ?_⟩
        rw [split, quote, whole]
        rfl
      · cases read
    · rename_i later
      split at read
      · rename_i comma
        obtain ⟨a', blank', split'⟩ := skipBlank_split t
        split at read
        · cases read
        · rename_i same'
          obtain ⟨raw, key, rest, found, written, whole⟩ := keyed read
          have separates : Separates first (a ++ [',']) := by
            rw [Bool.not_eq_true] at later
            rw [later]
            exact ⟨a, blank, rfl⟩
          refine .inr ⟨a ++ [','], a', raw, key, rest, found, separates, blank', written, ?_⟩
          rw [split, comma, split', same', whole]
          simp
        · cases read
        · cases read
      · cases read

/- Lists. -/

theorem closeList_sound {s rest : List Char} (read : closeList s = .ok rest) :
    ∃ b, Blank b ∧ s = b ++ ']' :: rest := by
  obtain ⟨b, blank, split⟩ := skipBlank_split s
  unfold closeList at read
  split at read
  · rename_i same
    cases read
    exact ⟨b, blank, by rw [split, same]⟩
  · cases read
  · split at read <;> cases read
  · cases read

theorem nextItem_end (first : Bool) {b : List Char} (blank : Blank b) (rest : List Char) :
    nextItem first (b ++ ']' :: rest) = .ok none := by
  simp [nextItem, skipBlank_bracket blank]

theorem nextItem_sound {first : Bool} {s item : List Char}
    (read : nextItem first s = .ok (some item)) :
    ∃ l a, Separates first l ∧ Blank a ∧ s = l ++ (a ++ item) := by
  obtain ⟨a, blank, split⟩ := skipBlank_split s
  unfold nextItem at read
  split at read
  · cases read
  · cases read
  · rename_i c t _ same
    rw [same] at split
    split at read
    · rename_i start
      cases read
      exact ⟨[], a, by rw [start]; rfl, blank, split⟩
    · rename_i later
      split at read
      · rename_i comma
        obtain ⟨a', blank', split'⟩ := skipBlank_split t
        split at read
        · cases read
        · cases read
        · cases read
          rw [Bool.not_eq_true] at later
          refine ⟨a ++ [','], a', by rw [later]; exact ⟨a, blank, rfl⟩, blank', ?_⟩
          rw [split, comma, List.append_assoc, List.singleton_append, ← split']
      · cases read

/-- At least one value, divided by commas. -/
def Items (x : List Char) : Prop :=
  ∃ vs, Written (.items vs) x

theorem items_followed {a t x : List Char} {v : Tree} (before : Blank a)
    (value : Written (.value v) t) (behind : Behind Items false x) : Items (a ++ (t ++ x)) := by
  rcases behind with blank | ⟨_, others, ⟨b, blank, rfl⟩, ⟨vs, items⟩, rfl⟩
  · exact ⟨_, .lastItem before value blank⟩
  · rw [List.append_assoc]
    exact ⟨_, .item before value blank items⟩

theorem items_enclosed {x : List Char} (behind : Behind Items true x) :
    ∃ vs, Written (.value (.list vs)) ('[' :: (x ++ [']'])) := by
  rcases behind with blank | ⟨_, others, rfl, ⟨vs, items⟩, rfl⟩
  · exact ⟨_, .emptyList blank⟩
  · exact ⟨_, .list items⟩

/- Records. -/

namespace Shape

variable {σ α : Type} {shape : Shape σ α}

/-- Every member has a value of the grammar. -/
structure Proper (shape : Shape σ α) : Prop where
  fields : ∀ field ∈ shape.fields, ∀ p, Consumes (field.read p)
  other : ∀ p key ⦃s rest : List Char⦄ ⦃q : σ⦄, shape.other p key s = .ok (q, rest) →
    ∃ b form t, s = b ++ (t ++ rest) ∧ Blank b ∧ Formed (.value form) t

theorem member_sound (proper : shape.Proper) {p q : σ} {key : String} {s rest : List Char}
    (read : shape.member p key s = .ok (q, rest)) :
    ∃ b c form t, s = b ++ ':' :: (c ++ (t ++ rest)) ∧ Blank b ∧ Blank c ∧
      Formed (.value form) t := by
  rw [member] at read
  split at read
  · rename_i field found
    split at read
    · cases read
    · obtain ⟨s', between, value⟩ := bind_eq_ok.mp read
      obtain ⟨b, blank, rfl⟩ := colon_sound between
      obtain ⟨c, v, t, rfl, blank', written⟩ :=
        proper.fields field (List.mem_of_find?_eq_some found) p value
      obtain ⟨form, formed⟩ := written.formed
      exact ⟨b, c, form, t, rfl, blank, blank', formed⟩
  · obtain ⟨s', between, value⟩ := bind_eq_ok.mp read
    obtain ⟨b, blank, rfl⟩ := colon_sound between
    obtain ⟨c, form, t, rfl, blank', formed⟩ := proper.other p key value
    exact ⟨b, c, form, t, rfl, blank, blank', formed⟩

theorem members_sound (proper : shape.Proper) {fuel : Nat} {first : Bool} {p q : σ}
    {s end_ : List Char} (read : shape.members fuel first p s = .ok (q, end_)) :
    ∃ x, s = x ++ '\x7d' :: pastBrace end_ ∧ Behind (Formed (.inside .object)) first x := by
  induction fuel generalizing first p s with
  | zero => cases read
  | succ fuel ih =>
    have step := read
    obtain ⟨next, found, -⟩ := bind_eq_ok.mp step
    rcases nextKey_cases found with ⟨rfl, b, rest, blank, rfl⟩ |
      ⟨l, a, raw, key, rest, rfl, separates, before, string, rfl⟩
    · rw [shape.members_end fuel first p found] at read
      cases read
      exact ⟨b, by rw [pastBrace_text blank], .inl blank⟩
    · rw [shape.members_next fuel p found] at read
      obtain ⟨⟨p', rest'⟩, member, others⟩ := bind_eq_ok.mp read
      obtain ⟨b, c, form, t, rfl, between, after, value⟩ := member_sound proper member
      obtain ⟨x, rfl, follows⟩ := ih others
      have leads := leading_key before string between after
      refine ⟨l ++ (a ++ '"' :: (raw ++ '"' :: (b ++ ':' :: c)) ++ (t ++ x)), by simp, .inr ?_⟩
      exact ⟨l, _, separates, .followed leads value follows, rfl⟩

/-- The end of a list may come wherever an item may. -/
theorem listEnd_sound {first : Bool} {s rest : List Char} {a a' : α}
    (read : (closeList s >>= fun r => pure (a', r)) = .ok (a, rest)) :
    ∃ x, s = x ++ ']' :: rest ∧ Behind Items first x := by
  obtain ⟨rest', close, same⟩ := bind_eq_ok.mp read
  cases same
  obtain ⟨b, blank, split⟩ := closeList_sound close
  exact ⟨b, split, .inl blank⟩

theorem itemsFor_sound {fields : List (Member σ)}
    (each : ∀ field ∈ fields, ∀ p, Consumes (field.read p)) {index : Nat} {p : σ}
    {s rest : List Char} {a : α} (read : shape.itemsFor fields index p s = .ok (a, rest)) :
    ∃ x, s = x ++ ']' :: rest ∧ Behind Items (decide (index = 0)) x := by
  induction fields generalizing index p s with
  | nil =>
    rw [itemsFor] at read
    split at read
    · exact listEnd_sound read
    · cases read
  | cons field fields ih =>
    obtain ⟨next, found, read⟩ := bind_eq_ok.mp read
    cases next with
    | none =>
      simp only at read
      split at read
      · exact listEnd_sound read
      · cases read
    | some item =>
      obtain ⟨⟨p', rest'⟩, value, others⟩ := bind_eq_ok.mp read
      rw [List.forall_mem_cons] at each
      obtain ⟨l, a, separates, blank, rfl⟩ := nextItem_sound found
      obtain ⟨b, v, t, rfl, blank', written⟩ := each.1 p value
      obtain ⟨x, rfl, behind⟩ := ih each.2 others
      have items := items_followed (blank_append blank blank') written behind
      exact ⟨l ++ (a ++ b ++ (t ++ x)), by simp, .inr ⟨l, _, separates, items, rfl⟩⟩

theorem objectBody_sound (proper : shape.Proper) {s rest : List Char} {a : α}
    (read : shape.objectBody s = .ok (a, rest)) :
    ∃ x, s = x ++ '\x7d' :: rest ∧ Behind (Formed (.inside .object)) true x := by
  obtain ⟨⟨p, end_⟩, members, built⟩ := bind_eq_ok.mp read
  obtain ⟨x, rfl, behind⟩ := members_sound proper members
  simp only at built
  split at built
  · cases built
    exact ⟨x, rfl, behind⟩
  · cases built

theorem decode_sound (proper : shape.Proper) {s rest : List Char} {a : α}
    (read : shape.decode s = .ok (a, rest)) :
    ∃ b t, s = b ++ (t ++ rest) ∧ Blank b ∧
      (Formed (.value .object) t ∨ ∃ vs, Written (.value (.list vs)) t) := by
  obtain ⟨b, blank, split⟩ := skipBlank_split s
  rw [decode] at read
  split at read
  · rename_i same
    obtain ⟨x, rfl, behind⟩ := objectBody_sound proper read
    have object : Formed (.value Bracket.object.form) _ := .enclosed behind
    exact ⟨b, _, by rw [split, same]; simp [Bracket.opener, Bracket.closer], blank, .inl object⟩
  · rename_i same
    split at read
    · obtain ⟨x, rfl, behind⟩ := itemsFor_sound proper.fields read
      exact ⟨b, _, by rw [split, same]; simp, blank, .inr (items_enclosed behind)⟩
    · exact absurd read mismatch_ne_ok
  · exact absurd read mismatch_ne_ok

end Shape

/-- Behind what is decoded stand blanks only. -/
theorem decode_eq_ok {α : Type} {decoder : Decoder α} {text : String} {a : α}
    (read : decode decoder text = .ok a) :
    ∃ rest, decoder text.toList = .ok (a, rest) ∧ Blank rest := by
  rw [decode] at read
  cases outcome : decoder text.toList with
  | error fault =>
    rw [outcome] at read
    cases read
  | ok result =>
    obtain ⟨b, blank, split⟩ := skipBlank_split result.2
    rw [outcome, ok_bind] at read
    cases visible : skipBlank result.2 with
    | nil =>
      rw [visible, List.append_nil] at split
      simp only [visible] at read
      cases read
      exact ⟨result.2, rfl, split ▸ blank⟩
    | cons c more =>
      simp only [visible] at read
      cases read

/-- A text that is decoded is an object of the grammar, or a list. -/
theorem decode_form {σ α : Type} {shape : Shape σ α} (proper : shape.Proper) {text : String} {a : α}
    (read : decode shape.decode text = .ok a) :
    HasForm text .object ∨ ∃ vs, Holds text (.list vs) := by
  obtain ⟨rest, decoded, after⟩ := decode_eq_ok read
  obtain ⟨b, t, whole, before, object | ⟨vs, list⟩⟩ := Shape.decode_sound proper decoded
  · exact .inl ⟨b, t, rest, before, object, after, whole⟩
  · exact .inr ⟨vs, b, t, rest, before, list, after, whole⟩

theorem Formed.starts_object {part : Part} {t : List Char} (formed : Formed part t)
    (object : part = .value .object) : ∃ s, t = '\x7b' :: s := by
  cases formed with
  | @empty bracket | @filled bracket =>
    cases bracket with
    | list => cases object
    | object => exact ⟨_, rfl⟩
  | _ => cases object

theorem Holds.not_object {text : String} {vs : List Tree} (holds : Holds text (.list vs)) :
    ¬ HasForm text .object := by
  rintro ⟨a, t, b, before, formed, -, chars⟩
  obtain ⟨a', t', b', before', written, -, chars'⟩ := holds
  obtain ⟨s, rfl⟩ := formed.starts_object rfl
  obtain ⟨c, s', rfl, starts⟩ := written.starts
  have same := skipBlank_value before' starts (s' ++ b')
  rw [List.cons_append] at chars chars'
  rw [← chars', chars, skipBlank_append before, skipBlank_cons rfl] at same
  have bracket : '\x7b' = '[' := (List.cons.inj same).1.trans starts
  cases bracket

end BranchCount.Json
