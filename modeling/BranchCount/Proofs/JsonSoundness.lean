import BranchCount.Proofs.JsonReading

/-!
What the readers accept. A text that is read or skipped is one of the grammar, so nothing that is
malformed gets through, however it is nested. Strings that are only skipped need not make sense as
characters, so the grammar here knows escapes but not what they stand for.
-/
namespace BranchCount.Json

/- The grammar without values. -/

/-- What may stand between quotes: any escape of four digits, also half of a surrogate pair. -/
inductive Escaped : List Char → Prop where
  | nil : Escaped []
  | plain {c : Char} {raw : List Char} : 32 ≤ c.toNat → c ≠ '"' → c ≠ '\\' → Escaped raw →
      Escaped (c :: raw)
  | letter {l c : Char} {raw : List Char} : (l, c) ∈ escapes → Escaped raw →
      Escaped ('\\' :: l :: raw)
  | code {a b c d : Char} {n : Nat} {raw : List Char} : HexNumber a b c d n → Escaped raw →
      Escaped ('\\' :: 'u' :: a :: b :: c :: d :: raw)

/-- The forms that a value can have. -/
inductive Form where
  | null
  | bool
  | number
  | string
  | list
  | object

def Bracket.opener : Bracket → Char
  | .list => '['
  | .object => '\x7b'

def Bracket.form : Bracket → Form
  | .list => .list
  | .object => .object

/-- What stands in front of a value in a bracket: blanks, and in an object a key and a colon. -/
def Leading : Bracket → List Char → Prop
  | .list, l => Blank l
  | .object, l => ∃ a raw b c, l = a ++ '"' :: (raw ++ '"' :: (b ++ ':' :: c)) ∧ Blank a ∧
      Escaped raw ∧ Blank b ∧ Blank c

inductive Part where
  | value (form : Form)
  /-- At least one value, each with what leads to it, divided by commas. -/
  | inside (bracket : Bracket)

inductive Formed : Part → List Char → Prop where
  | null : Formed (.value .null) ['n', 'u', 'l', 'l']
  | yes : Formed (.value .bool) ['t', 'r', 'u', 'e']
  | no : Formed (.value .bool) ['f', 'a', 'l', 's', 'e']
  | number {s : List Char} : NumberText s → Formed (.value .number) s
  | string {raw : List Char} : Escaped raw → Formed (.value .string) ('"' :: (raw ++ ['"']))
  | empty {bracket : Bracket} {b : List Char} : Blank b →
      Formed (.value bracket.form) (bracket.opener :: (b ++ [bracket.closer]))
  | filled {bracket : Bracket} {body : List Char} : Formed (.inside bracket) body →
      Formed (.value bracket.form) (bracket.opener :: (body ++ [bracket.closer]))
  | last {bracket : Bracket} {form : Form} {l t b : List Char} : Leading bracket l →
      Formed (.value form) t → Blank b → Formed (.inside bracket) (l ++ (t ++ b))
  | more {bracket : Bracket} {form : Form} {l t b others : List Char} : Leading bracket l →
      Formed (.value form) t → Blank b → Formed (.inside bracket) others →
      Formed (.inside bracket) (l ++ (t ++ (b ++ ',' :: others)))

/- Blanks and words. -/

theorem skipBlank_split (s : List Char) : ∃ a, Blank a ∧ s = a ++ skipBlank s := by
  refine ⟨s.takeWhile isBlank, ?_, (List.takeWhile_append_dropWhile).symm⟩
  intro c member
  simpa [isBlank, or_assoc] using List.mem_takeWhile_imp member

theorem blank_append {a b : List Char} (blank : Blank a) (blank' : Blank b) : Blank (a ++ b) := by
  intro c member
  rcases List.mem_append.mp member with first | second
  · exact blank c first
  · exact blank' c second

theorem leading_blank {bracket : Bracket} {a l : List Char} (blank : Blank a)
    (leads : Leading bracket l) : Leading bracket (a ++ l) := by
  cases bracket with
  | list => exact blank_append blank leads
  | object =>
    obtain ⟨a', raw, b, c, rfl, before, others⟩ := leads
    exact ⟨a ++ a', raw, b, c, by simp, blank_append blank before, others⟩

theorem Formed.after_blank {bracket : Bracket} {a body : List Char} (blank : Blank a)
    (inside : Formed (.inside bracket) body) : Formed (.inside bracket) (a ++ body) := by
  cases inside with
  | last leads value after =>
    rw [← List.append_assoc]
    exact .last (leading_blank blank leads) value after
  | more leads value after others =>
    rw [← List.append_assoc]
    exact .more (leading_blank blank leads) value after others

theorem word_sound {expected s rest : List Char} (read : word expected s = .ok rest) :
    s = expected ++ rest := by
  induction expected generalizing s with
  | nil => exact Except.ok.inj read
  | cons e more ih =>
    cases s with
    | nil => cases read
    | cons c s =>
      rw [word] at read
      split at read
      · rename_i same
        rw [same, ih read, List.cons_append]
      · cases read

/- Strings. -/

theorem hexDigit_of_value {c : Char} {n : Nat} (value : hexValue? c = some n) : HexDigit c n := by
  have digit : ∀ i < 10, "0123456789abcdef".toList[i]? = some (Char.ofNat (i + 48)) := by decide
  have lower : ∀ i < 16, 10 ≤ i →
      "0123456789abcdef".toList[i]? = some (Char.ofNat (i + 87)) := by decide
  have upper : ∀ i < 16, 10 ≤ i →
      "0123456789ABCDEF".toList[i]? = some (Char.ofNat (i + 55)) := by decide
  have back (k : Nat) (same : n + k = c.toNat) : Char.ofNat (n + k) = c := by
    rw [same, Char.ofNat_toNat]
  unfold hexValue? at value
  simp only at value
  split at value
  · have range := Option.some.inj value
    exact .inl (back 48 (by omega) ▸ digit n (by omega))
  · split at value
    · have range := Option.some.inj value
      exact .inl (back 87 (by omega) ▸ lower n (by omega) (by omega))
    · split at value
      · have range := Option.some.inj value
        exact .inr (back 55 (by omega) ▸ upper n (by omega) (by omega))
      · cases value

theorem hexNumber_of_value {a b c d : Char} {n : Nat} (value : hexNumber? a b c d = some n) :
    HexNumber a b c d n := by
  simp only [hexNumber?, Option.bind_eq_bind, Option.bind_eq_some_iff, Option.pure_def,
    Option.some.injEq] at value
  obtain ⟨w, first, x, second, y, third, z, fourth, rfl⟩ := value
  exact ⟨w, x, y, z, hexDigit_of_value first, hexDigit_of_value second, hexDigit_of_value third,
    hexDigit_of_value fourth, rfl⟩

theorem mem_escapes {l c : Char} (value : letterEscape? l = some c) : (l, c) ∈ escapes := by
  unfold letterEscape? at value
  split at value <;> simp_all [escapes, eq_comm]

theorem badHex_ne_ok {α : Type} {s : List Char} {result : α} : badHex s ≠ .ok result := by
  unfold badHex
  split <;> exact nofun

theorem ne_backslash {c : Char} {raw rest : List Char}
    (other : ∀ l more, c = '\\' → raw ++ '"' :: rest = l :: more → False) : c ≠ '\\' := by
  rintro rfl
  cases raw with
  | nil => exact other _ _ rfl rfl
  | cons d more => exact other _ _ rfl rfl

theorem skipString_sound {s rest : List Char} (skipped : skipString s = .ok rest) :
    ∃ raw, s = raw ++ '"' :: rest ∧ Escaped raw := by
  fun_induction skipString s with
  | case2 rest' =>
    cases skipped
    exact ⟨[], rfl, .nil⟩
  | case4 a b c d _ n code ih =>
    obtain ⟨raw, rfl, escaped⟩ := ih skipped
    exact ⟨_, rfl, .code (hexNumber_of_value code) escaped⟩
  | case6 c _ _ _ e letter ih =>
    obtain ⟨raw, rfl, escaped⟩ := ih skipped
    exact ⟨_, rfl, .letter (mem_escapes letter) escaped⟩
  | case10 c _ quote _ _ backslash backslash' visible ih =>
    obtain ⟨raw, rfl, escaped⟩ := ih skipped
    have other := ne_backslash backslash
    exact ⟨_, rfl, .plain (Nat.not_lt.mp visible) quote other escaped⟩
  | case1 | case7 | case8 | case9 => cases skipped
  | case3 | case5 => exact absurd skipped badHex_ne_ok

theorem prepend_eq_ok {c : Char} {outcome : Except Fault (List Char × List Char)}
    {s rest : List Char} (read : prepend c outcome = .ok (s, rest)) :
    ∃ more, outcome = .ok (more, rest) ∧ s = c :: more := by
  cases outcome with
  | error fault => cases read
  | ok result =>
    cases read
    exact ⟨_, rfl, rfl⟩

theorem stringBody_sound {s text rest : List Char} (read : stringBody s = .ok (text, rest)) :
    ∃ raw, s = raw ++ '"' :: rest ∧ StringText raw text := by
  fun_induction stringBody s generalizing text with
  | case2 rest' =>
    cases read
    exact ⟨[], rfl, .nil⟩
  | case6 a b c d n code _ leading a' b' c' d' rest' m code' trailing ih =>
    obtain ⟨more, read', rfl⟩ := prepend_eq_ok read
    obtain ⟨raw, rfl, written⟩ := ih read'
    simp only [isLeading, isTrailing, Bool.and_eq_true, decide_eq_true_eq] at leading trailing
    have pair := CharText.pair (hexNumber_of_value code) (hexNumber_of_value code') leading
      trailing
    exact ⟨_, rfl, .cons pair written⟩
  | case13 a b c d _ n code trailing leading ih =>
    obtain ⟨more, read', rfl⟩ := prepend_eq_ok read
    obtain ⟨raw, rfl, written⟩ := ih read'
    have single : ¬ (0xD800 ≤ n ∧ n ≤ 0xDFFF) := by
      simp only [isLeading, isTrailing, Bool.and_eq_true, decide_eq_true_eq] at leading trailing
      omega
    exact ⟨_, rfl, .cons (.code (hexNumber_of_value code) single) written⟩
  | case15 c _ _ _ e letter ih =>
    obtain ⟨more, read', rfl⟩ := prepend_eq_ok read
    obtain ⟨raw, rfl, written⟩ := ih read'
    exact ⟨_, rfl, .cons (.letter (mem_escapes letter)) written⟩
  | case19 c _ quote _ _ backslash backslash' visible ih =>
    obtain ⟨more, read', rfl⟩ := prepend_eq_ok read
    obtain ⟨raw, rfl, written⟩ := ih read'
    have other := ne_backslash backslash
    exact ⟨_, rfl, .cons (.plain (Nat.not_lt.mp visible) quote other) written⟩
  | case1 | case4 | case7 | case9 | case10 | case11 | case12 | case16 | case17 | case18 =>
    cases read
  | case3 | case5 | case8 | case14 => exact absurd read badHex_ne_ok

theorem StringText.escaped {raw s : List Char} (written : StringText raw s) : Escaped raw := by
  induction written with
  | nil => exact .nil
  | cons char _ ih =>
    cases char with
    | plain visible quote backslash => exact .plain visible quote backslash ih
    | letter known => exact .letter known ih
    | code digits _ => exact .code digits ih
    | pair first second _ _ => exact .code first (.code second ih)

/- Numbers. -/

theorem digits_split (s : List Char) :
    s = (digits s).1 ++ (digits s).2 ∧ ∀ c ∈ (digits s).1, c.isDigit = true :=
  ⟨(List.takeWhile_append_dropWhile).symm, fun _ member => List.mem_takeWhile_imp member⟩

theorem digitsText_cons {c : Char} (digit : c.isDigit = true) (s : List Char) :
    DigitsText (c :: (digits s).1) :=
  ⟨by simp, List.forall_mem_cons.mpr ⟨digit, (digits_split s).2⟩⟩

theorem sign_split (s : List Char) :
    ∃ sign, (sign = [] ∨ sign = ['+'] ∨ sign = ['-']) ∧
      s = sign ++ (match s with
        | '+' :: rest | '-' :: rest => rest
        | _ => s) := by
  split
  · exact ⟨['+'], .inr (.inl rfl), rfl⟩
  · exact ⟨['-'], .inr (.inr rfl), rfl⟩
  · exact ⟨[], .inl rfl, rfl⟩

theorem skipExponent_sound {s rest : List Char} (skipped : skipExponent s = .ok rest) :
    ∃ sign ds, s = sign ++ (ds ++ rest) ∧ (sign = [] ∨ sign = ['+'] ∨ sign = ['-']) ∧
      DigitsText ds := by
  obtain ⟨sign, signed, split⟩ := sign_split s
  unfold skipExponent at skipped
  simp only at skipped
  split at skipped
  · cases skipped
  · rename_i c more behind
    split at skipped
    · rename_i digit
      cases skipped
      refine ⟨sign, c :: (digits more).1, ?_, signed, digitsText_cons digit more⟩
      rw [List.cons_append, ← (digits_split more).1, ← behind]
      exact split
    · cases skipped

theorem exponent_sound {mark : Char} {s rest : List Char} (marks : mark = 'e' ∨ mark = 'E')
    (skipped : skipExponent s = .ok rest) :
    ∃ exponent, mark :: s = exponent ++ rest ∧ ExponentText exponent := by
  obtain ⟨sign, ds, rfl, signed, written⟩ := skipExponent_sound skipped
  exact ⟨mark :: (sign ++ ds), by simp, .inr ⟨mark, sign, ds, rfl, marks, signed, written⟩⟩

theorem skipAfterInteger_sound {s rest : List Char} (skipped : skipAfterInteger s = .ok rest) :
    ∃ fraction exponent, s = fraction ++ (exponent ++ rest) ∧ FractionText fraction ∧
      ExponentText exponent := by
  unfold skipAfterInteger at skipped
  split at skipped
  · rename_i t
    obtain ⟨whole, all⟩ := digits_split t
    simp only at skipped
    split at skipped
    · cases skipped
    · rename_i some_digits
      have fractional : FractionText ('.' :: (digits t).1) :=
        .inr ⟨_, rfl, by simpa using some_digits, all⟩
      split at skipped
      · rename_i more behind
        obtain ⟨exponent, same, exponential⟩ := exponent_sound (.inl rfl) skipped
        refine ⟨_, exponent, ?_, fractional, exponential⟩
        rw [List.cons_append, ← same, ← behind, ← whole]
      · rename_i more behind
        obtain ⟨exponent, same, exponential⟩ := exponent_sound (.inr rfl) skipped
        refine ⟨_, exponent, ?_, fractional, exponential⟩
        rw [List.cons_append, ← same, ← behind, ← whole]
      · cases skipped
        exact ⟨_, [], by rw [List.nil_append, List.cons_append, ← whole], fractional, .inl rfl⟩
  · obtain ⟨exponent, same, exponential⟩ := exponent_sound (.inl rfl) skipped
    exact ⟨[], exponent, same, .inl rfl, exponential⟩
  · obtain ⟨exponent, same, exponential⟩ := exponent_sound (.inr rfl) skipped
    exact ⟨[], exponent, same, .inl rfl, exponential⟩
  · cases skipped
    exact ⟨[], [], rfl, .inl rfl, .inl rfl⟩

theorem skipNumber_sound {s rest : List Char} (skipped : skipNumber s = .ok rest) :
    ∃ whole fraction exponent, s = whole ++ (fraction ++ (exponent ++ rest)) ∧
      IntegerText whole ∧ FractionText fraction ∧ ExponentText exponent := by
  unfold skipNumber at skipped
  split at skipped
  · cases skipped
  · have behind {t : List Char} (read : skipAfterInteger t = .ok rest) :
        ∃ whole fraction exponent, '0' :: t = whole ++ (fraction ++ (exponent ++ rest)) ∧
          IntegerText whole ∧ FractionText fraction ∧ ExponentText exponent := by
      obtain ⟨fraction, exponent, rfl, fractional, exponential⟩ := skipAfterInteger_sound read
      exact ⟨['0'], fraction, exponent, rfl, .inl rfl, fractional, exponential⟩
    split at skipped
    · split at skipped
      · cases skipped
      · exact behind skipped
    · exact behind skipped
  · rename_i c t zero
    split at skipped
    · rename_i digit
      obtain ⟨fraction, exponent, same, fractional, exponential⟩ := skipAfterInteger_sound skipped
      refine ⟨c :: (digits t).1, fraction, exponent, ?_, .inr ⟨digitsText_cons digit t, ?_⟩,
        fractional, exponential⟩
      · rw [List.cons_append, ← same, ← (digits_split t).1]
      · simpa using zero
    · cases skipped

theorem number_sound {sign s rest : List Char} (signed : sign = [] ∨ sign = ['-'])
    (skipped : skipNumber s = .ok rest) :
    ∃ t, sign ++ s = t ++ rest ∧ Formed (.value .number) t := by
  obtain ⟨whole, fraction, exponent, rfl, integral, fractional, exponential⟩ :=
    skipNumber_sound skipped
  exact ⟨sign ++ (whole ++ (fraction ++ exponent)), by simp, .number
    ⟨sign, whole, fraction, exponent, rfl, signed, integral, fractional, exponential⟩⟩

/- Values that are skipped. -/

/-- What stands in a bracket up to its end: at the start of it if `first`, else behind a value. -/
def Behind (inside : List Char → Prop) (first : Bool) (x : List Char) : Prop :=
  Blank x ∨ ∃ l others, Separates first l ∧ inside others ∧ x = l ++ others

/-- A value and what follows it in a bracket are the inside of one. -/
theorem Formed.followed {bracket : Bracket} {form : Form} {l t x : List Char}
    (leads : Leading bracket l) (value : Formed (.value form) t)
    (behind : Behind (Formed (.inside bracket)) false x) :
    Formed (.inside bracket) (l ++ (t ++ x)) := by
  rcases behind with blank | ⟨_, others, ⟨b, blank, rfl⟩, inside, rfl⟩
  · exact .last leads value blank
  · rw [List.append_assoc]
    exact .more leads value blank inside

theorem Formed.enclosed {bracket : Bracket} {x : List Char}
    (behind : Behind (Formed (.inside bracket)) true x) :
    Formed (.value bracket.form) (bracket.opener :: (x ++ [bracket.closer])) := by
  rcases behind with blank | ⟨_, others, rfl, inside, rfl⟩
  · exact .empty blank
  · exact .filled inside

/-- What follows a value in open brackets, the innermost first, up to the end of the last one. -/
def Closes : List Bracket → List Char → Prop
  | [], u => u = []
  | bracket :: outer, u => ∃ x v, u = x ++ bracket.closer :: v ∧
      Behind (Formed (.inside bracket)) false x ∧ Closes outer v

theorem skipKey_sound {bracket : Bracket} {outer : List Bracket} {s rest : List Char}
    (skipped : skipKey (bracket :: outer) s = .ok rest) :
    ∃ l, s = l ++ rest ∧ ∀ a, Blank a → Leading bracket (l ++ a) := by
  cases bracket with
  | list =>
    cases skipped
    exact ⟨[], rfl, fun a blank => blank⟩
  | object =>
    simp only [skipKey] at skipped
    split at skipped
    · cases skipped
    · rename_i t quote
      obtain ⟨behind, key, goes_on⟩ := bind_eq_ok.mp skipped
      obtain ⟨raw, rfl, escaped⟩ := skipString_sound key
      split at goes_on
      · cases goes_on
      · rename_i r colon
        cases goes_on
        obtain ⟨a, before, split⟩ := skipBlank_split s
        obtain ⟨b, between, split'⟩ := skipBlank_split behind
        rw [quote] at split
        rw [colon] at split'
        refine ⟨a ++ '"' :: (raw ++ '"' :: (b ++ [':'])), ?_, fun c after => ?_⟩
        · rw [split, split']
          simp
        · exact ⟨a, raw, b, c, by simp, before, escaped, between, after⟩
      · cases goes_on
    · cases skipped

/-- Up to the rest stand a value, and then what closes the open brackets. -/
def Passes (open_ : List Bracket) (s rest : List Char) : Prop :=
  ∃ a form t u, s = a ++ (t ++ (u ++ rest)) ∧ Blank a ∧ Formed (.value form) t ∧ Closes open_ u

section Skipping

variable {fuel : Nat} {bracket : Bracket} {outer : List Bracket} {s rest : List Char}

theorem enter_sound
    (sound : ∀ {s}, skipItems fuel (bracket :: outer) s = .ok rest →
      Passes (bracket :: outer) s rest)
    (skipped : enter fuel (bracket :: outer) s = .ok rest) :
    ∃ x v, s = x ++ bracket.closer :: (v ++ rest) ∧ Formed (.inside bracket) x ∧
      Closes outer v := by
  obtain ⟨behind, key, goes_on⟩ := bind_eq_ok.mp skipped
  obtain ⟨l, rfl, leads⟩ := skipKey_sound key
  obtain ⟨a, form, t, u, rfl, blank, value, x, v, rfl, follows, closes⟩ := sound goes_on
  refine ⟨(l ++ a) ++ (t ++ x), v, by simp, ?_, closes⟩
  exact .followed (leads a blank) value follows

/-- Behind a value comes a comma and another one, or the end of the bracket. -/
theorem resume_step (skipped : resume false fuel (bracket :: outer) s = .ok rest) :
    ∃ b r, Blank b ∧
      (s = b ++ ',' :: r ∧ enter fuel (bracket :: outer) r = .ok rest ∨
        s = b ++ bracket.closer :: r ∧ resume false fuel outer r = .ok rest) := by
  obtain ⟨b, blank, split⟩ := skipBlank_split s
  cases visible : skipBlank s with
  | nil =>
    rw [resume, skipClosers, visible] at skipped
    cases skipped
  | cons c r =>
    rw [visible] at split
    refine ⟨b, r, blank, ?_⟩
    by_cases comma : c = ','
    · rw [split, comma, resume_comma blank] at skipped
      exact .inl ⟨by rw [split, comma], skipped⟩
    · by_cases closer : c = bracket.closer
      · rw [split, closer, resume_closer false blank] at skipped
        exact .inr ⟨by rw [split, closer], skipped⟩
      · rw [resume, skipClosers, visible] at skipped
        cases bracket <;> simp_all [Bracket.closer, failAt]

variable (sound : ∀ {open_ s}, skipItems fuel open_ s = .ok rest → Passes open_ s rest)
include sound

theorem resume_sound {open_ : List Bracket} (skipped : resume false fuel open_ s = .ok rest) :
    ∃ u, s = u ++ rest ∧ Closes open_ u := by
  induction open_ generalizing s with
  | nil =>
    cases skipped
    exact ⟨[], rfl, rfl⟩
  | cons bracket outer ih =>
    obtain ⟨b, r, blank, ⟨rfl, next⟩ | ⟨rfl, ended⟩⟩ := resume_step skipped
    · obtain ⟨x, v, rfl, inside, closes⟩ := enter_sound sound next
      have follows : Behind (Formed (.inside bracket)) false (b ++ [','] ++ x) :=
        .inr ⟨_, x, ⟨b, blank, rfl⟩, inside, rfl⟩
      exact ⟨b ++ [','] ++ x ++ bracket.closer :: v, by simp, _, v, rfl, follows, closes⟩
    · obtain ⟨u, rfl, closes⟩ := ih ended
      exact ⟨b ++ bracket.closer :: u, by simp, b, u, rfl, .inl blank, closes⟩

/-- Behind an opening bracket comes its end, or a first value. -/
theorem resume_opened (skipped : resume true fuel (bracket :: outer) s = .ok rest) :
    ∃ t u, bracket.opener :: s = t ++ (u ++ rest) ∧ Formed (.value bracket.form) t ∧
      Closes outer u := by
  obtain ⟨b, blank, split⟩ := skipBlank_split s
  cases visible : skipBlank s with
  | nil =>
    rw [resume, skipClosers, visible] at skipped
    cases skipped
  | cons c r =>
    rw [visible] at split
    by_cases closer : c = bracket.closer
    · rw [split, closer, resume_closer true blank] at skipped
      obtain ⟨u, rfl, closes⟩ := resume_sound sound skipped
      exact ⟨_, u, by rw [split, closer]; simp, .empty blank, closes⟩
    · have first : enter fuel (bracket :: outer) (c :: r) = .ok rest := by
        rw [resume, skipClosers, visible] at skipped
        cases bracket <;> simp only [Bracket.closer] at closer <;> simpa [closer] using skipped
      obtain ⟨x, v, same, inside, closes⟩ := enter_sound sound first
      exact ⟨_, v, by rw [split, same]; simp, .filled (.after_blank blank inside), closes⟩

end Skipping

/-- One turn of the loop: a value that contains nothing, or an opening bracket. -/
theorem skipItems_step {fuel : Nat} {open_ : List Bracket} {s rest : List Char}
    (skipped : skipItems (fuel + 1) open_ s = .ok rest) :
    (∃ form t r, Formed (.value form) t ∧ skipBlank s = t ++ r ∧
      resume false fuel open_ r = .ok rest) ∨
      ∃ bracket r, skipBlank s = Bracket.opener bracket :: r ∧
        resume true fuel (bracket :: open_) r = .ok rest := by
  rw [skipItems] at skipped
  obtain ⟨⟨first, open', r⟩, head, goes_on⟩ := bind_eq_ok.mp skipped
  change resume first fuel open' r = .ok rest at goes_on
  have literal {form : Form} {c : Char} {letters more : List Char}
      (value : Formed (.value form) (c :: letters)) (same : skipBlank s = c :: more)
      (head : (word letters more >>= fun r => pure (false, open_, r)) = .ok (first, open', r)) :
      ∃ form t r, Formed (.value form) t ∧ skipBlank s = t ++ r ∧
        resume false fuel open_ r = .ok rest := by
    obtain ⟨behind, read, result⟩ := bind_eq_ok.mp head
    cases result
    exact ⟨form, _, _, value, by rw [same, word_sound read]; rfl, goes_on⟩
  split at head
  · cases head
  · rename_i same
    exact .inl (literal .null same head)
  · rename_i same
    exact .inl (literal .yes same head)
  · rename_i same
    exact .inl (literal .no same head)
  · rename_i same
    obtain ⟨behind, read, result⟩ := bind_eq_ok.mp head
    cases result
    obtain ⟨t, whole, value⟩ := number_sound (.inr rfl) read
    exact .inl ⟨_, t, _, value, by rw [same, ← whole]; rfl, goes_on⟩
  · rename_i same
    obtain ⟨behind, read, result⟩ := bind_eq_ok.mp head
    cases result
    obtain ⟨raw, whole, escaped⟩ := skipString_sound read
    exact .inl ⟨_, _, _, .string escaped, by rw [same, whole]; simp, goes_on⟩
  · rename_i same
    cases head
    exact .inr ⟨.list, _, same, goes_on⟩
  · rename_i same
    cases head
    exact .inr ⟨.object, _, same, goes_on⟩
  · rename_i same
    split at head
    · obtain ⟨behind, read, result⟩ := bind_eq_ok.mp head
      cases result
      obtain ⟨t, whole, value⟩ := number_sound (.inl rfl) read
      exact .inl ⟨_, t, _, value, by rw [same, ← whole]; rfl, goes_on⟩
    · cases head

-- The steps of the loop are counted, so the induction is on what is left of them.
theorem skipItems_sound {fuel : Nat} {open_ : List Bracket} {s rest : List Char}
    (skipped : skipItems fuel open_ s = .ok rest) : Passes open_ s rest := by
  induction fuel generalizing open_ s with
  | zero => cases skipped
  | succ fuel ih =>
    obtain ⟨a, blank, split⟩ := skipBlank_split s
    rcases skipItems_step skipped with ⟨form, t, r, value, same, goes_on⟩ |
      ⟨bracket, r, same, goes_on⟩
    · obtain ⟨u, rfl, closes⟩ := resume_sound ih goes_on
      exact ⟨a, form, t, u, by rw [split, same], blank, value, closes⟩
    · obtain ⟨t, u, whole, value, closes⟩ := resume_opened ih goes_on
      exact ⟨a, _, t, u, by rw [split, same, whole], blank, value, closes⟩

/-- A value that is skipped without being understood is one of the grammar all the same. -/
theorem skipValue_sound {s rest : List Char} (skipped : skipValue s = .ok rest) :
    ∃ a form t, s = a ++ (t ++ rest) ∧ Blank a ∧ Formed (.value form) t := by
  obtain ⟨a, form, t, u, split, blank, value, closes⟩ := skipItems_sound skipped
  cases closes
  exact ⟨a, form, t, split, blank, value⟩

end BranchCount.Json
