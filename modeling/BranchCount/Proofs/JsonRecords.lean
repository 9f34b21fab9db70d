import BranchCount.Json.Decode
import BranchCount.Proofs.JsonGrammar

/-!
Records read from texts of the grammar. A text that holds one object is read member by member, so
what reading gives is a fold over the members; whether it refuses does not depend on how the text is
spaced or escaped.
-/
namespace BranchCount.Json

section Outcome

variable {ε α β : Type}

@[simp] theorem toOption_ok (a : α) : (Except.ok a : Except ε α).toOption = some a := rfl

@[simp] theorem toOption_error (e : ε) : (Except.error e : Except ε α).toOption = none := rfl

@[simp] theorem toOption_bind (x : Except ε α) (f : α → Except ε β) :
    (x >>= f).toOption = x.toOption.bind fun a => (f a).toOption := by
  cases x <;> rfl

@[simp] theorem toOption_pure (a : α) : (pure a : Except ε α).toOption = some a := rfl

@[simp] theorem toOption_fail (cause : Cause) (rest : List Char) :
    (fail cause rest : Except Fault α).toOption = none := rfl

@[simp] theorem toOption_failAt (cause : Cause) (rest : List Char) :
    (failAt cause rest : Except Fault α).toOption = none := rfl

end Outcome

/- Values. -/

/-- What a value is where a flag or `null` is expected. -/
def Tree.asFlag? : Tree → Option (Option Bool)
  | .null => some none
  | .bool b => some (some b)
  | _ => none

/-- What a value is where a string or `null` is expected. -/
def Tree.asText? : Tree → Option (Option String)
  | .null => some none
  | .text s => some (some s)
  | _ => none

theorem mismatch_refuses {α : Type} (expected : String) (s : List Char) :
    (mismatch expected s : Except Fault α).toOption = none := by
  unfold mismatch
  split <;> simp
  split <;> simp

theorem skipBlank_value {a : List Char} (before : Blank a) {v : Tree} {c : Char}
    (starts : v.Starts c) (s : List Char) : skipBlank (a ++ c :: s) = c :: s := by
  rw [skipBlank_append before, skipBlank_cons starts.visible.1]

theorem Tree.Starts.ne {v : Tree} {c d : Char} (starts : v.Starts c) (other : ¬ v.Starts d) :
    c ≠ d := by
  rintro rfl
  exact other starts

theorem optional_other {α : Type} (decode : Decoder α) {s rest : List Char} {c : Char}
    (visible : skipBlank s = c :: rest) (other : c ≠ 'n') :
    (decode.optional s).toOption = (decode s).toOption.map fun (a, rest) => (some a, rest) := by
  rw [Decoder.optional, visible]
  cases decode s <;> simp [other]

theorem bool_other {s rest : List Char} {c : Char} (visible : skipBlank s = c :: rest)
    (other : c ≠ 't' ∧ c ≠ 'f') : (Decoder.bool s).toOption = none := by
  rw [Decoder.bool, visible]
  simp [other, mismatch_refuses]

theorem text_other (expected : String) {s rest : List Char} {c : Char}
    (visible : skipBlank s = c :: rest) (other : c ≠ '"') :
    (Decoder.text expected s).toOption = none := by
  rw [Decoder.text, visible]
  simp [other, mismatch_refuses]

theorem optional_bool {a t : List Char} {v : Tree} (before : Blank a)
    (written : Written (.value v) t) (rest : List Char) :
    ((Decoder.optional .bool) (a ++ (t ++ rest))).toOption = v.asFlag?.map (·, rest) := by
  obtain ⟨c, s, rfl, starts⟩ := written.starts
  have visible := skipBlank_value before starts (s ++ rest)
  rw [List.cons_append]
  cases v with
  | null =>
    rw [Decoder.optional, visible]
    cases written
    rfl
  | bool _ =>
    rw [optional_other .bool visible (starts.ne (by simp [Tree.Starts])), Decoder.bool, visible]
    cases written <;> rfl
  | number _ | text _ | list _ | object _ =>
    -- the first character already tells that this is neither
    have other : c ≠ 'n' ∧ c ≠ 't' ∧ c ≠ 'f' := by
      refine ⟨starts.ne ?_, starts.ne ?_, starts.ne ?_⟩ <;> simp [Tree.Starts]
    rw [optional_other .bool visible other.1, bool_other visible other.2]
    rfl

theorem optional_text (expected : String) {a t : List Char} {v : Tree} (before : Blank a)
    (written : Written (.value v) t) (rest : List Char) :
    ((Decoder.optional (.text expected)) (a ++ (t ++ rest))).toOption =
      v.asText?.map (·, rest) := by
  obtain ⟨c, s, rfl, starts⟩ := written.starts
  have visible := skipBlank_value before starts (s ++ rest)
  rw [List.cons_append]
  cases v with
  | null =>
    rw [Decoder.optional, visible]
    cases written
    rfl
  | text _ =>
    rw [optional_other (.text expected) visible (starts.ne (by simp [Tree.Starts])), Decoder.text,
      visible]
    cases written with
    | text string => simp [stringBody_text string, Tree.asText?]
  | bool _ | number _ | list _ | object _ =>
    have other : c ≠ 'n' ∧ c ≠ '"' := by
      refine ⟨starts.ne ?_, starts.ne ?_⟩ <;> simp [Tree.Starts]
    rw [optional_other (.text expected) visible other.1, text_other expected visible other.2]
    rfl

/- Objects. -/

/-- What stands in front of the first member of an object, or of a later one. -/
def Separates : Bool → List Char → Prop
  | true, s => s = []
  | false, s => ∃ a, Blank a ∧ s = a ++ [',']

theorem nextKey_text {first : Bool} {l a raw key : List Char} (separates : Separates first l)
    (before : Blank a) (written : StringText raw key) (rest : List Char) :
    nextKey first (l ++ (a ++ '"' :: (raw ++ '"' :: rest))) =
      .ok (some (String.ofList key, rest)) := by
  have quote (s : List Char) : skipBlank ('"' :: s) = '"' :: s := skipBlank_cons rfl s
  have comma (s : List Char) : skipBlank (',' :: s) = ',' :: s := skipBlank_cons rfl s
  cases first with
  | true =>
    cases separates
    simp [nextKey, skipBlank_append before, quote, stringBody_text written]
  | false =>
    obtain ⟨d, after, rfl⟩ := separates
    simp [nextKey, skipBlank_append after, comma, skipBlank_append before, quote,
      stringBody_text written]

theorem skipBlank_brace {a : List Char} (blank : Blank a) (rest : List Char) :
    skipBlank (a ++ '\x7d' :: rest) = '\x7d' :: rest := by
  rw [skipBlank_append blank, skipBlank_cons rfl]

theorem nextKey_end (first : Bool) {a : List Char} (blank : Blank a) (rest : List Char) :
    nextKey first (a ++ '\x7d' :: rest) = .ok none := by
  simp [nextKey, skipBlank_brace blank]

theorem pastBrace_text {a : List Char} (blank : Blank a) (rest : List Char) :
    pastBrace (a ++ '\x7d' :: rest) = rest := by
  simp [pastBrace, skipBlank_brace blank]

theorem colon_text {a : List Char} (blank : Blank a) (rest : List Char) :
    colon (a ++ ':' :: rest) = .ok rest := by
  have visible : skipBlank (':' :: rest) = ':' :: rest := skipBlank_cons rfl rest
  simp [colon, skipBlank_append blank, visible]

namespace Shape

variable {σ α : Type} (shape : Shape σ α)

/-- Reads what follows the key of a member. -/
def member (partly : σ) (key : String) (s : List Char) : Except Fault (σ × List Char) :=
  match shape.field? key with
  | some field =>
    if field.isSet partly then fail (.duplicateField field.name) (pastBrace s)
    else do field.read partly (← colon s)
  | none => do shape.other partly key (← colon s)

theorem members_end (fuel : Nat) (first : Bool) (partly : σ) {s : List Char}
    (ends : nextKey first s = .ok none) :
    shape.members (fuel + 1) first partly s = .ok (partly, s) := by
  rw [members, ends]
  rfl

theorem members_next (fuel : Nat) {first : Bool} (partly : σ) {s rest : List Char} {key : String}
    (next : nextKey first s = .ok (some (key, rest))) :
    shape.members (fuel + 1) first partly s =
      (shape.member partly key rest >>= fun (partly, rest) =>
        shape.members fuel false partly rest) := by
  rw [members, next, ok_bind, member]
  cases found : shape.field? key with
  | none => simp [found]
  | some field =>
    by_cases set : field.isSet partly = true
    · simp [found, set, fail]
    · cases read : colon rest <;> simp [found, set, read]

variable {shape} {take? : σ → String × Tree → Option σ}

/-- What a member with a value does to the fields read so far does not depend on how the value is
written. -/
def Takes (shape : Shape σ α) (take? : σ → String × Tree → Option σ) : Prop :=
  ∀ partly key {v : Tree} {b c t rest : List Char}, Blank b → Blank c → Written (.value v) t →
    Stops rest →
    (shape.member partly key (b ++ ':' :: (c ++ (t ++ rest)))).toOption =
      (take? partly (key, v)).map (·, rest)

/-- What comes of one member, however it is written; `none` if it is refused. -/
def Steps (shape : Shape σ α) (partly : σ) (m : String × Tree) (next : Option σ) : Prop :=
  ∀ ⦃b c t rest : List Char⦄, Blank b → Blank c → Written (.value m.2) t → Stops rest →
    (shape.member partly m.1 (b ++ ':' :: (c ++ (t ++ rest)))).toOption = next.map (·, rest)

/-- Members one after the other, up to the first that is refused. -/
inductive Course (shape : Shape σ α) : σ → List (String × Tree) → Option σ → Prop where
  | done {partly : σ} : Course shape partly [] (some partly)
  | refused {partly : σ} {m : String × Tree} {ms : List (String × Tree)} :
      shape.Steps partly m none → Course shape partly (m :: ms) none
  | taken {partly next : σ} {m : String × Tree} {ms : List (String × Tree)} {final : Option σ} :
      shape.Steps partly m (some next) → Course shape next ms final →
      Course shape partly (m :: ms) final

theorem Takes.course (takes : shape.Takes take?) (partly : σ) (ms : List (String × Tree)) :
    shape.Course partly ms (ms.foldlM take? partly) := by
  induction ms generalizing partly with
  | nil => exact .done
  | cons m ms ih =>
    have step : shape.Steps partly m (take? partly m) := fun _ _ _ _ => takes partly m.1
    rw [List.foldlM_cons]
    cases taken : take? partly m with
    | none =>
      rw [taken] at step
      exact .refused step
    | some next =>
      rw [taken] at step
      exact .taken step (ih next)

theorem members_step {partly : σ} {key : List Char} {v : Tree} {next : Option σ}
    (step : shape.Steps partly (String.ofList key, v) next) {first : Bool}
    {l a raw b c t s : List Char} (separates : Separates first l) (before : Blank a)
    (string : StringText raw key) (between : Blank b) (after : Blank c)
    (value : Written (.value v) t) (stops : Stops s) (fuel : Nat) :
    (shape.members (fuel + 1) first partly
        (l ++ (a ++ '"' :: (raw ++ '"' :: (b ++ ':' :: (c ++ (t ++ s))))))).toOption =
      next.bind fun next => (shape.members fuel false next s).toOption := by
  rw [shape.members_next _ _ (nextKey_text separates before string _), toOption_bind,
    step between after value stops]
  cases next <;> rfl

theorem members_written {partly : σ} {ms : List (String × Tree)} {final : Option σ}
    (course : shape.Course partly ms final) {body : List Char}
    (written : Written (.members ms) body) {first : Bool} {l : List Char}
    (separates : Separates first l) (fuel : Nat) (rest : List Char) :
    ∃ d, Blank d ∧
      (shape.members (fuel + ms.length + 1) first partly (l ++ (body ++ '\x7d' :: rest))).toOption =
        final.map (·, d ++ '\x7d' :: rest) := by
  induction course generalizing body first l with
  | done => cases written
  | refused step =>
    cases written with
    | @lastMember a raw key b c t d v before string between after value end_ =>
      have stops := stops_blank end_ (stops_cons (.inr (.inr rfl)) rest)
      simp only [List.append_assoc, List.cons_append]
      rw [members_step step separates before string between after value stops]
      exact ⟨d, end_, rfl⟩
    | @member a raw key b c t d more v _ before string between after value end_ others =>
      have stops := stops_blank end_ (stops_cons (.inl rfl) (more ++ '\x7d' :: rest))
      simp only [List.append_assoc, List.cons_append]
      rw [members_step step separates before string between after value stops]
      exact ⟨d, end_, rfl⟩
  | @taken _ next m ms final step course ih =>
    cases written with
    | @lastMember a raw key b c t d v before string between after value end_ =>
      have stops := stops_blank end_ (stops_cons (.inr (.inr rfl)) rest)
      have done := shape.members_end fuel false next (nextKey_end false end_ rest)
      cases course
      simp only [List.append_assoc, List.cons_append]
      rw [members_step step separates before string between after value stops]
      exact ⟨d, end_, by simp [done]⟩
    | @member a raw key b c t d more v _ before string between after value end_ others =>
      have stops := stops_blank end_ (stops_cons (.inl rfl) (more ++ '\x7d' :: rest))
      have comma : Separates false (d ++ [',']) := ⟨d, end_, rfl⟩
      simp only [List.append_assoc, List.cons_append]
      rw [members_step step separates before string between after value stops]
      -- the comma goes with the members behind it
      obtain ⟨d', blank, tail⟩ := ih others comma
      rw [List.append_assoc, List.singleton_append] at tail
      exact ⟨d', blank, tail⟩

theorem members_le {ms : List (String × Tree)} {body : List Char}
    (written : Written (.members ms) body) : ms.length ≤ body.length := by
  induction ms generalizing body with
  | nil => exact Nat.zero_le _
  | cons m ms ih =>
    cases written with
    | lastMember => simp only [List.length_append, List.length_cons, List.length_nil]; omega
    | member _ _ _ _ _ _ others =>
      have rest := ih others
      simp only [List.length_append, List.length_cons]
      omega

theorem decode_brace {a : List Char} (before : Blank a) (s : List Char) :
    shape.decode (a ++ '\x7b' :: s) = shape.objectBody s := by
  have visible : skipBlank (a ++ '\x7b' :: s) = '\x7b' :: s := by
    rw [skipBlank_append before, skipBlank_cons rfl]
  simp [decode, visible]

theorem objectBody_read {partly? : Option σ} {d s rest : List Char} (blank : Blank d)
    (read : (shape.members (s.length + 1) true shape.start s).toOption =
      partly?.map (·, d ++ '\x7d' :: rest)) :
    (shape.objectBody s).toOption =
      partly?.bind fun partly => (shape.build partly).toOption.map (·, rest) := by
  rw [objectBody, toOption_bind, read]
  cases partly? with
  | none => rfl
  | some partly => cases built : shape.build partly <;> simp [built, pastBrace_text blank]

/-- An object is read as its members are. -/
theorem decode_course {ms : List (String × Tree)} {final : Option σ}
    (course : shape.Course shape.start ms final) {a t : List Char} (before : Blank a)
    (written : Written (.value (.object ms)) t) (rest : List Char) :
    (shape.decode (a ++ (t ++ rest))).toOption =
      final.bind fun partly => (shape.build partly).toOption.map (·, rest) := by
  cases written with
  | @emptyObject b blank =>
    cases course
    rw [List.cons_append, decode_brace before, List.append_assoc, List.singleton_append]
    apply objectBody_read blank
    rw [shape.members_end _ true _ (nextKey_end true blank rest)]
    rfl
  | @object _ body members =>
    rw [List.cons_append, decode_brace before, List.append_assoc, List.singleton_append]
    have bound := members_le members
    have steps : (body ++ '\x7d' :: rest).length + 1 =
        body.length - ms.length + 1 + rest.length + ms.length + 1 := by
      rw [List.length_append, List.length_cons]
      omega
    have start : Separates true [] := rfl
    obtain ⟨d, blank, read⟩ := members_written course members start
      (body.length - ms.length + 1 + rest.length) rest
    apply objectBody_read blank
    rw [steps]
    exact read

/-- An object is read as the fold of its members. -/
theorem decode_object (takes : shape.Takes take?) {ms : List (String × Tree)} {a t : List Char}
    (before : Blank a) (written : Written (.value (.object ms)) t) (rest : List Char) :
    (shape.decode (a ++ (t ++ rest))).toOption =
      (ms.foldlM take? shape.start).bind fun partly =>
        (shape.build partly).toOption.map (·, rest) :=
  decode_course (takes.course shape.start ms) before written rest

end Shape

/-- A text that holds one value and nothing else. -/
def Holds (text : String) (v : Tree) : Prop :=
  ∃ a t b, Blank a ∧ Written (.value v) t ∧ Blank b ∧ text.toList = a ++ (t ++ b)

theorem decode_holds {α : Type} {decoder : Decoder α} {expected : Option α} {text : String}
    {v : Tree} (holds : Holds text v)
    (read : ∀ {a t rest : List Char}, Blank a → Written (.value v) t →
      (decoder (a ++ (t ++ rest))).toOption = expected.map (·, rest)) :
    (decode decoder text).toOption = expected := by
  obtain ⟨a, t, b, before, written, after, chars⟩ := holds
  have blank : skipBlank b = [] := by
    have all := skipBlank_append after []
    rwa [List.append_nil] at all
  have outcome := @read a t b before written
  rw [decode, chars]
  cases decoded : decoder (a ++ (t ++ b)) with
  | error fault =>
    rw [decoded] at outcome
    cases expected with
    | none => rfl
    | some _ => cases outcome
  | ok result =>
    rw [decoded] at outcome
    cases expected with
    | none => cases outcome
    | some value =>
      cases Option.some.inj outcome
      simp [blank]
      rfl

end BranchCount.Json
