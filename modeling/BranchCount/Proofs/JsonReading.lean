import BranchCount.Proofs.JsonText
import BranchCount.Proofs.JsonUnambiguous

/-!
Decoders on texts of the grammar. Where a decoder accepts a value at all, it reads it in the same
way however it is written, and it stops where the value ends; so what a decoder reads can be said
about the value, and records can be read field by field. What a decoder can give at all is said for
every text.
-/
namespace BranchCount.Json

@[simp] theorem pure_ok {α : Type} (a : α) : (pure a : Except Fault α) = .ok a := rfl

/-- The decoder reads the value as `a`, however it is written and whatever follows it. -/
def Reads {α : Type} (decoder : Decoder α) (v : Tree) (a : α) : Prop :=
  ∀ ⦃b t rest : List Char⦄, Blank b → Written (.value v) t → Stops rest →
    decoder (b ++ (t ++ rest)) = .ok (a, rest)

theorem decode_reads {α : Type} {decoder : Decoder α} {text : String} {v : Tree} {a : α}
    (holds : Holds text v) (reads : Reads decoder v a) : decode decoder text = .ok a := by
  obtain ⟨b, t, d, before, written, after, chars⟩ := holds
  rw [decode, chars, reads before written (stops_end after), ok_bind]
  simp only [skipBlank_blank after]
  rfl

/-- The compact text of a value is read as the value. -/
theorem decode_render {α : Type} {decoder : Decoder α} {v : Json} {a : α} (natural : v.Natural)
    (reads : Reads decoder v.tree a) : decode decoder v.render = .ok a := by
  have holds : Holds v.render v.tree :=
    ⟨[], v.render.toList, [], blank_nil, natural.written, blank_nil, by simp⟩
  exact decode_reads holds reads

theorem Reads.bind {α β : Type} {decoder : Decoder α} {v : Tree} {a : α}
    {next : α × List Char → Except Fault (β × List Char)} {b : β} (reads : Reads decoder v a)
    (goes : ∀ rest, next (a, rest) = .ok (b, rest)) : Reads (fun s => decoder s >>= next) v b := by
  intro blank t rest before written stops
  simp only [reads before written stops, ok_bind, goes]

/- Flags, strings and names. -/

theorem reads_bool (flag : Bool) : Reads .bool (.bool flag) flag := by
  intro b t rest before written stops
  cases written with
  | yes =>
    rw [Decoder.bool, List.cons_append, skipBlank_append before, skipBlank_cons rfl]
    rfl
  | no =>
    rw [Decoder.bool, List.cons_append, skipBlank_append before, skipBlank_cons rfl]
    rfl

theorem reads_text (expected s : String) : Reads (.text expected) (.text s) s := by
  intro b t rest before written stops
  cases written with
  | @text raw chars string =>
    rw [Decoder.text, List.cons_append, List.append_assoc, skipBlank_append before,
      skipBlank_cons rfl]
    simp only [List.singleton_append, stringBody_text string, ok_bind]
    rfl

theorem reads_null {α : Type} (decoder : Decoder α) : Reads decoder.optional .null none := by
  intro b t rest before written stops
  cases written
  rw [Decoder.optional, List.cons_append, skipBlank_append before, skipBlank_cons rfl]
  rfl

theorem Reads.optional {α : Type} {decoder : Decoder α} {v : Tree} {a : α}
    (reads : Reads decoder v a) (real : ¬ v.Starts 'n') : Reads decoder.optional v (some a) := by
  intro b t rest before written stops
  have read := reads before written stops
  obtain ⟨c, s, rfl, starts⟩ := written.starts
  have visible := skipBlank_value before starts (s ++ rest)
  simp only [List.cons_append] at read ⊢
  rw [Decoder.optional, visible]
  simp only [read, ok_bind]
  split
  · rename_i same
    cases same
    exact absurd starts real
  · rfl

theorem reads_optional {α : Type} {decoder : Decoder α} {tree : α → Tree}
    (reads : ∀ a, Reads decoder (tree a) a) (real : ∀ a, ¬ (tree a).Starts 'n') (given : Option α) :
    Reads decoder.optional (given.elim .null tree) given := by
  cases given with
  | none => exact reads_null decoder
  | some a => exact (reads a).optional (real a)

theorem reads_variant {α : Type} {known : List (String × α)} {name : String} {a : α}
    (found : known.lookup name = some a) : Reads (.variant known) (.text name) a := by
  intro b t rest before written stops
  have read := reads_text "variant identifier" name blank_nil written stops
  cases written with
  | @text raw chars string =>
    rw [List.nil_append] at read
    rw [Decoder.variant, List.cons_append, skipBlank_append before, skipBlank_cons rfl]
    simp only [Decoder.variantName, List.cons_append] at read ⊢
    rw [read, ok_bind]
    simp only [found]
    rfl

/- Numbers. -/

theorem le_ofDigitChars (ds : List Char) (start : Nat) : start ≤ Nat.ofDigitChars 10 ds start := by
  rw [Nat.ofDigitChars_eq_ofDigitChars_zero]
  have scale := Nat.le_mul_of_pos_left start (Nat.pow_pos (n := ds.length) (a := 10) (by decide))
  omega

theorem fittingDigits_eq {ds : List Char} {start : Nat}
    (bound : Nat.ofDigitChars 10 ds start < Nat.pow 2 64) :
    fittingDigits start ds = (Nat.ofDigitChars 10 ds start, []) := by
  induction ds generalizing start with
  | nil => rfl
  | cons c rest ih =>
    rw [Nat.ofDigitChars_cons] at bound ⊢
    have fits := Nat.lt_of_le_of_lt (le_ofDigitChars rest _) bound
    rw [fittingDigits]
    exact (if_pos fits).trans (ih bound)

theorem afterInteger_stops (n : Nat) {rest : List Char} (stops : Stops rest) :
    afterInteger false n 0 rest = .ok (.integer n, rest) := by
  cases rest with
  | nil => rfl
  | cons c more =>
    obtain ⟨-, point, small, large⟩ := stops c rfl
    simp [afterInteger, point, small, large]

theorem number_integer {ds rest : List Char} (integral : IntegerText ds)
    (bound : Nat.ofDigitChars 10 ds 0 < Nat.pow 2 64) (stops : Stops rest) :
    number false (ds ++ rest) = .ok (.integer (Nat.ofDigitChars 10 ds 0), rest) := by
  rcases integral with rfl | ⟨⟨some, all⟩, leading⟩
  · have zero : Nat.ofDigitChars 10 ['0'] 0 = 0 := by decide
    rw [zero, ← afterInteger_stops 0 stops]
    cases rest with
    | nil => rfl
    | cons c more => simp [number, (stops c rfl).1]
  · obtain ⟨c, more, rfl⟩ := List.exists_cons_of_ne_nil some
    have digit : c.isDigit = true := all c List.mem_cons_self
    have read : digits (c :: (more ++ rest)) = (c :: more, rest) :=
      digits_append all fun d hd => (stops d hd).1
    rw [List.cons_append, number]
    · rw [if_pos digit, read]
      simp only [fittingDigits_eq bound]
      exact afterInteger_stops _ stops
    · simpa using leading

theorem number_toDigits {n : Nat} (bound : n < Nat.pow 2 64) {rest : List Char}
    (stops : Stops rest) : number false (Nat.toDigits 10 n ++ rest) = .ok (.integer n, rest) := by
  have read := number_integer (toDigits_text n) (by rwa [Nat.ofDigitChars_ten_toDigits]) stops
  rwa [Nat.ofDigitChars_ten_toDigits] at read

theorem check_fits {w : Width} {n : Nat} (bound : n < w.bound) : w.check (.integer n) = .ok n := by
  have both : 0 ≤ (n : Int) ∧ (n : Int) < w.bound := ⟨Int.natCast_nonneg n, Int.ofNat_lt.mpr bound⟩
  rw [Width.check, if_pos both, Int.toNat_natCast]

theorem Width.bound_le (w : Width) : w.bound ≤ Nat.pow 2 64 := by
  cases w <;> decide

theorem reads_count {w : Width} {n : Nat} (bound : n < w.bound) :
    Reads (.count w) (.number (Nat.toDigits 10 n)) n := by
  intro b t rest before written stops
  cases written
  have read := number_toDigits (Nat.lt_of_lt_of_le bound w.bound_le) stops
  obtain ⟨c, more, same, digit⟩ := integer_head (toDigits_text n)
  have visible : isBlank c = false := by simp [isBlank, digit_ne digit]
  rw [same, List.cons_append] at read ⊢
  simp [Decoder.count, skipBlank_append before, skipBlank_cons visible, digit, digit_ne digit, read,
    checkedCount, check_fits bound]

/-- A number among values that are only looked at. -/
theorem value_number {n : Nat} (bound : n < Nat.pow 2 64) (fuel depth : Nat) {b rest : List Char}
    (before : Blank b) (stops : Stops rest) :
    value (fuel + 1) depth (b ++ (Nat.toDigits 10 n ++ rest)) =
      .ok (.num (.integer n), rest) := by
  have read := number_toDigits bound stops
  obtain ⟨c, more, same, digit⟩ := integer_head (toDigits_text n)
  have visible : isBlank c = false := by simp [isBlank, digit_ne digit]
  rw [same, List.cons_append] at read ⊢
  simp [value, skipBlank_append before, skipBlank_cons visible, digit, digit_ne digit, read]

/- Lists. -/

theorem nextItem_text {first : Bool} {l b t : List Char} {v : Tree} (separates : Separates first l)
    (before : Blank b) (written : Written (.value v) t) (rest : List Char) :
    nextItem first (l ++ (b ++ (t ++ rest))) = .ok (some (t ++ rest)) := by
  obtain ⟨c, s, rfl, starts⟩ := written.starts
  have visible := skipBlank_value before starts (s ++ rest)
  have comma (s : List Char) : skipBlank (',' :: s) = ',' :: s := skipBlank_cons rfl s
  have other := starts.visible.2.1
  cases first with
  | true =>
    cases separates
    simp [nextItem, visible]
  | false =>
    obtain ⟨d, after, rfl⟩ := separates
    simp [nextItem, skipBlank_append after, comma, visible, other]

theorem skipBlank_bracket {b : List Char} (blank : Blank b) (rest : List Char) :
    skipBlank (b ++ ']' :: rest) = ']' :: rest := by
  rw [skipBlank_append blank, skipBlank_cons rfl]

theorem items_end {α : Type} (decoder : Decoder α) (fuel : Nat) (first : Bool) {b : List Char}
    (blank : Blank b) (rest : List Char) :
    Decoder.items decoder (fuel + 1) first (b ++ ']' :: rest) = .ok ([], rest) := by
  simp [Decoder.items, nextItem, closeList, skipBlank_bracket blank]

theorem items_next {α : Type} {decoder : Decoder α} {v : Tree} {a : α} (reads : Reads decoder v a)
    {first : Bool} {l b t s : List Char} (separates : Separates first l) (before : Blank b)
    (written : Written (.value v) t) (stops : Stops s) (fuel : Nat) :
    Decoder.items decoder (fuel + 1) first (l ++ (b ++ (t ++ s))) =
      (Decoder.items decoder fuel false s).map fun (others, rest) => (a :: others, rest) := by
  have read := reads blank_nil written stops
  rw [List.nil_append] at read
  simp only [Decoder.items, nextItem_text separates before written, ok_bind, read]
  cases Decoder.items decoder fuel false s <;> rfl

theorem items_read {α : Type} {decoder : Decoder α} {vs : List Tree} {as : List α}
    (each : List.Forall₂ (Reads decoder) vs as) {body : List Char}
    (written : Written (.items vs) body) {first : Bool} {l : List Char}
    (separates : Separates first l) (fuel : Nat) (rest : List Char) :
    Decoder.items decoder (fuel + vs.length + 1) first (l ++ (body ++ ']' :: rest)) =
      .ok (as, rest) := by
  induction each generalizing body first l with
  | nil => cases written
  | @cons v a vs as reads each ih =>
    cases written with
    | @lastItem b t d _ before value after =>
      cases each
      have stops := stops_blank after (stops_cons (.inr (.inl rfl)) rest)
      simp only [List.append_assoc]
      rw [List.length_singleton, items_next reads separates before value stops,
        items_end decoder fuel false after]
      rfl
    | @item b t d more _ _ before value after others =>
      have stops := stops_blank after (stops_cons (.inl rfl) (more ++ ']' :: rest))
      have comma : Separates false (d ++ [',']) := ⟨d, after, rfl⟩
      have tail := ih others comma
      simp only [List.append_assoc, List.cons_append, List.nil_append] at tail ⊢
      rw [items_next reads separates before value stops]
      exact congrArg _ tail

theorem items_le {vs : List Tree} {body : List Char} (written : Written (.items vs) body) :
    vs.length ≤ body.length := by
  induction vs generalizing body with
  | nil => exact Nat.zero_le _
  | cons v vs ih =>
    cases written with
    | lastItem _ value _ =>
      obtain ⟨c, s, rfl, -⟩ := value.starts
      simp only [List.length_append, List.length_cons, List.length_nil]
      omega
    | item _ _ _ others =>
      have rest := ih others
      simp only [List.length_append, List.length_cons]
      omega

theorem reads_list {α : Type} {decoder : Decoder α} {vs : List Tree} {as : List α}
    (each : List.Forall₂ (Reads decoder) vs as) : Reads decoder.list (.list vs) as := by
  intro b t rest before written stops
  cases written with
  | @emptyList d blank =>
    cases each
    rw [Decoder.list, List.cons_append, skipBlank_append before, skipBlank_cons rfl,
      List.append_assoc]
    exact items_end decoder _ true blank rest
  | @list _ body items =>
    rw [Decoder.list, List.cons_append, skipBlank_append before, skipBlank_cons rfl,
      List.append_assoc]
    have bound := items_le items
    have steps : (body ++ ([']'] ++ rest)).length + 1 =
        body.length - vs.length + 1 + rest.length + vs.length + 1 := by
      simp only [List.length_append, List.length_singleton]
      omega
    have start : Separates true [] := rfl
    simp only [steps]
    exact items_read each items start _ rest

/- Records. -/

namespace Shape

variable {σ α : Type} {shape : Shape σ α} {partly next : σ} {key : String} {v : Tree}

theorem steps_field {field : Member σ} (found : shape.field? key = some field)
    (vacant : field.isSet partly = false) (reads : Reads (field.read partly) v next) :
    shape.Steps partly (key, v) (some next) := by
  intro b c t rest between after written stops
  simp [member, found, vacant, colon_text between, reads after written stops]

theorem steps_other (unknown : shape.field? key = none)
    (reads : Reads (shape.other partly key) v next) :
    shape.Steps partly (key, v) (some next) := by
  intro b c t rest between after written stops
  simp [member, unknown, colon_text between, reads after written stops]

theorem reads_object {ms : List (String × Tree)} {a : α}
    (course : shape.Course shape.start ms (some partly)) (built : shape.build partly = .ok a) :
    Reads shape.decode (.object ms) a := by
  intro b t rest before written stops
  have read := decode_course course before written rest
  cases decoded : shape.decode (b ++ (t ++ rest)) with
  | error fault => simp [decoded, built] at read
  | ok result =>
    have same : result = (a, rest) := by simpa [decoded, built] using read
    rw [same]

end Shape

/- What a decoder can give, on any text. -/

theorem bind_eq_ok {ε α β : Type} {x : Except ε α} {f : α → Except ε β} {b : β} :
    (x >>= f) = .ok b ↔ ∃ a, x = .ok a ∧ f a = .ok b := by
  cases x with
  | error e =>
    constructor
    · intro impossible
      cases impossible
    · rintro ⟨a, impossible, -⟩
      cases impossible
  | ok a =>
    constructor
    · exact fun same => ⟨a, rfl, same⟩
    · rintro ⟨a', same, result⟩
      cases same
      exact result

theorem need_eq_ok {α : Type} {name : String} {given : Option α} {a : α}
    (needed : need name given = .ok a) : given = some a := by
  cases given with
  | none => cases needed
  | some b =>
    cases needed
    rfl

theorem mismatch_ne_ok {α : Type} {expected : String} {s : List Char} {result : α} :
    mismatch expected s ≠ .ok result := by
  intro same
  have none := mismatch_refuses (α := α) expected s
  rw [same] at none
  cases none

/-- Whatever the decoder reads, on any text, has the property. -/
def Yields {α : Type} (decoder : Decoder α) (P : α → Prop) : Prop :=
  ∀ ⦃s rest : List Char⦄ ⦃a : α⦄, decoder s = .ok (a, rest) → P a

theorem yields_any {α : Type} (decoder : Decoder α) : Yields decoder fun _ => True :=
  fun _ _ _ _ => trivial

theorem Yields.bind {α β : Type} {decoder : Decoder α} {P : α → Prop} {Q : β → Prop}
    {next : α × List Char → Except Fault (β × List Char)} (yields : Yields decoder P)
    (keeps : ∀ a rest b rest', P a → next (a, rest) = .ok (b, rest') → Q b) :
    Yields (fun s => decoder s >>= next) Q := by
  intro s rest b read
  obtain ⟨⟨a, rest'⟩, first, then_⟩ := bind_eq_ok.mp read
  exact keeps a rest' b rest (yields first) then_

theorem decode_yields {α : Type} {decoder : Decoder α} {P : α → Prop} (yields : Yields decoder P)
    {text : String} {a : α} (decoded : decode decoder text = .ok a) : P a := by
  rw [decode] at decoded
  cases read : decoder text.toList with
  | error fault =>
    simp only [read, error_bind] at decoded
    cases decoded
  | ok result =>
    obtain ⟨b, rest⟩ := result
    simp only [read, ok_bind] at decoded
    split at decoded
    · cases decoded
      exact yields read
    · cases decoded

theorem check_bound {w : Width} {n : Number} {m : Nat} (checked : w.check n = .ok m) :
    m < w.bound := by
  cases n with
  | float x => cases checked
  | integer n =>
    rw [Width.check] at checked
    split at checked
    · cases checked
      omega
    · cases checked

theorem checkedCount_bound {w : Width} {outcome : Except Fault (Number × List Char)} {m : Nat}
    {rest : List Char} (read : checkedCount w outcome = .ok (m, rest)) : m < w.bound := by
  obtain ⟨⟨n, rest'⟩, -, checked⟩ := bind_eq_ok.mp read
  simp only at checked
  split at checked
  · rename_i fits
    cases checked
    exact check_bound fits
  · cases checked

theorem count_yields (w : Width) : Yields (.count w) (· < w.bound) := by
  intro s rest m read
  rw [Decoder.count] at read
  split at read
  · exact checkedCount_bound read
  · split at read
    · exact checkedCount_bound read
    · exact absurd read mismatch_ne_ok
  · cases read

theorem items_yields {α : Type} {decoder : Decoder α} {P : α → Prop} (yields : Yields decoder P)
    (fuel : Nat) (first : Bool) : Yields (Decoder.items decoder fuel first) (∀ a ∈ ·, P a) := by
  induction fuel generalizing first with
  | zero =>
    intro s rest as read
    cases read
  | succ fuel ih =>
    intro s rest as read
    obtain ⟨next, -, read⟩ := bind_eq_ok.mp read
    cases next with
    | none =>
      obtain ⟨rest', -, same⟩ := bind_eq_ok.mp read
      cases same
      simp
    | some s =>
      obtain ⟨⟨a, rest'⟩, item, read⟩ := bind_eq_ok.mp read
      obtain ⟨⟨others, rest''⟩, items, same⟩ := bind_eq_ok.mp read
      cases same
      rw [List.forall_mem_cons]
      exact ⟨yields item, ih false items⟩

theorem list_yields {α : Type} {decoder : Decoder α} {P : α → Prop} (yields : Yields decoder P) :
    Yields decoder.list (∀ a ∈ ·, P a) := by
  intro s rest as read
  rw [Decoder.list] at read
  split at read
  · exact items_yields yields _ true read
  · exact absurd read mismatch_ne_ok

namespace Shape

variable {σ α : Type} {shape : Shape σ α} {inv : σ → Prop} {P : α → Prop}

theorem members_yields (fields : ∀ field ∈ shape.fields, ∀ p, inv p → Yields (field.read p) inv)
    (other : ∀ p key, inv p → Yields (shape.other p key) inv) (fuel : Nat) (first : Bool) {p : σ}
    (holds : inv p) : Yields (shape.members fuel first p) inv := by
  induction fuel generalizing first p with
  | zero =>
    intro s rest q read
    cases read
  | succ fuel ih =>
    intro s rest q read
    obtain ⟨next, -, read⟩ := bind_eq_ok.mp read
    cases next with
    | none =>
      cases read
      exact holds
    | some pair =>
      obtain ⟨key, rest'⟩ := pair
      simp only at read
      split at read
      · rename_i field found
        have member : field ∈ shape.fields := List.mem_of_find?_eq_some found
        split at read
        · cases read
        · obtain ⟨s', -, read⟩ := bind_eq_ok.mp read
          obtain ⟨⟨p', rest''⟩, value, read⟩ := bind_eq_ok.mp read
          exact ih false (fields field member p holds value) read
      · obtain ⟨s', -, read⟩ := bind_eq_ok.mp read
        obtain ⟨⟨p', rest''⟩, value, read⟩ := bind_eq_ok.mp read
        exact ih false (other p key holds value) read

theorem itemsFor_yields (build : ∀ p a, inv p → shape.build p = .ok a → P a)
    (fields : List (Member σ)) (each : ∀ field ∈ fields, ∀ p, inv p → Yields (field.read p) inv)
    (index : Nat) {p : σ} (holds : inv p) : Yields (shape.itemsFor fields index p) P := by
  induction fields generalizing index p with
  | nil =>
    intro s rest a read
    rw [itemsFor] at read
    split at read
    · rename_i a' built
      obtain ⟨rest', -, same⟩ := bind_eq_ok.mp read
      cases same
      exact build p a holds built
    · cases read
  | cons field fields ih =>
    intro s rest a read
    obtain ⟨next, -, read⟩ := bind_eq_ok.mp read
    cases next with
    | none =>
      simp only at read
      split at read
      · rename_i a' built
        obtain ⟨rest', -, same⟩ := bind_eq_ok.mp read
        cases same
        exact build p a holds built
      · cases read
    | some s =>
      obtain ⟨⟨p', rest'⟩, value, read⟩ := bind_eq_ok.mp read
      rw [List.forall_mem_cons] at each
      exact ih each.2 (index + 1) (each.1 p holds value) read

/-- What the fields keep up from the start, a record can rely on. -/
theorem decode_yields (start : inv shape.start)
    (fields : ∀ field ∈ shape.fields, ∀ p, inv p → Yields (field.read p) inv)
    (other : ∀ p key, inv p → Yields (shape.other p key) inv)
    (build : ∀ p a, inv p → shape.build p = .ok a → P a) : Yields shape.decode P := by
  intro s rest a read
  rw [decode] at read
  split at read
  · obtain ⟨⟨p, rest'⟩, members, read⟩ := bind_eq_ok.mp read
    have final : inv p := members_yields fields other _ true start members
    simp only at read
    split at read
    · rename_i a' built
      cases read
      exact build p a final built
    · cases read
  · split at read
    · exact itemsFor_yields build shape.fields fields 0 start read
    · exact absurd read mismatch_ne_ok
  · exact absurd read mismatch_ne_ok

end Shape

end BranchCount.Json
