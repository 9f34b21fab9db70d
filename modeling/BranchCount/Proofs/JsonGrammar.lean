import Mathlib.Data.List.Basic
import Mathlib.Data.List.DropRight
import BranchCount.Json.Reader

/-!
The grammar of JSON texts, and the readers on texts of the grammar. A text is described by how it is
put together, without a word about reading: blanks, literals, numbers, strings with their escapes,
lists and objects. Main statement: a value that nobody asked for is skipped to its very end,
whatever it contains.
-/
namespace BranchCount.Json

/-- A value as it is written; a number is its literal. -/
inductive Tree where
  | null
  | bool (b : Bool)
  | number (literal : List Char)
  | text (s : String)
  | list (items : List Tree)
  | object (members : List (String × Tree))

/-- The blanks that may stand between the parts of a text. -/
def Blank (s : List Char) : Prop :=
  ∀ c ∈ s, c = ' ' ∨ c = '\n' ∨ c = '\t' ∨ c = '\r'

/- Strings. -/

def HexDigit (c : Char) (n : Nat) : Prop :=
  "0123456789abcdef".toList[n]? = some c ∨ "0123456789ABCDEF".toList[n]? = some c

def HexNumber (a b c d : Char) (n : Nat) : Prop :=
  ∃ w x y z, HexDigit a w ∧ HexDigit b x ∧ HexDigit c y ∧ HexDigit d z ∧
    n = 4096 * w + 256 * x + 16 * y + z

/-- The letters that can stand behind a backslash, and what they stand for. -/
def escapes : List (Char × Char) :=
  [('"', '"'), ('\\', '\\'), ('/', '/'), ('b', '\x08'), ('f', '\x0c'), ('n', '\n'), ('r', '\r'),
    ('t', '\t')]

/-- The ways to write one character in a string. Halves of surrogate pairs are no characters. -/
inductive CharText : List Char → Char → Prop where
  | plain {c : Char} : 32 ≤ c.toNat → c ≠ '"' → c ≠ '\\' → CharText [c] c
  | letter {l c : Char} : (l, c) ∈ escapes → CharText ['\\', l] c
  | code {a b c d : Char} {n : Nat} : HexNumber a b c d n → ¬ (0xD800 ≤ n ∧ n ≤ 0xDFFF) →
      CharText ['\\', 'u', a, b, c, d] (Char.ofNat n)
  | pair {a b c d a' b' c' d' : Char} {n m : Nat} : HexNumber a b c d n →
      HexNumber a' b' c' d' m → 0xD800 ≤ n ∧ n ≤ 0xDBFF → 0xDC00 ≤ m ∧ m ≤ 0xDFFF →
      CharText ['\\', 'u', a, b, c, d, '\\', 'u', a', b', c', d']
        (Char.ofNat (0x10000 + (n - 0xD800) * 0x400 + (m - 0xDC00)))

/-- What stands between the quotes of a string. -/
inductive StringText : List Char → List Char → Prop where
  | nil : StringText [] []
  | cons {t ts : List Char} {c : Char} {cs : List Char} : CharText t c → StringText ts cs →
      StringText (t ++ ts) (c :: cs)

def isPlain (c : Char) : Bool :=
  32 ≤ c.toNat && c ≠ '"' && c ≠ '\\'

theorem stringText_plain {s : List Char} (plain : s.all isPlain = true) : StringText s s := by
  induction s with
  | nil => exact .nil
  | cons c s ih =>
    simp only [List.all_cons, isPlain, Bool.and_eq_true, decide_eq_true_eq] at plain
    obtain ⟨⟨⟨visible, quote⟩, backslash⟩, others⟩ := plain
    exact .cons (.plain visible quote backslash) (ih others)

/- Numbers. -/

def DigitsText (s : List Char) : Prop :=
  s ≠ [] ∧ ∀ c ∈ s, c.isDigit = true

/-- Digits without a leading zero. -/
def IntegerText (s : List Char) : Prop :=
  s = ['0'] ∨ DigitsText s ∧ s.head? ≠ some '0'

def FractionText (s : List Char) : Prop :=
  s = [] ∨ ∃ ds, s = '.' :: ds ∧ DigitsText ds

def ExponentText (s : List Char) : Prop :=
  s = [] ∨ ∃ mark sign ds, s = mark :: (sign ++ ds) ∧ (mark = 'e' ∨ mark = 'E') ∧
    (sign = [] ∨ sign = ['+'] ∨ sign = ['-']) ∧ DigitsText ds

def NumberText (s : List Char) : Prop :=
  ∃ sign whole fraction exponent, s = sign ++ (whole ++ (fraction ++ exponent)) ∧
    (sign = [] ∨ sign = ['-']) ∧ IntegerText whole ∧ FractionText fraction ∧ ExponentText exponent

/- Values. -/

/-- The parts that a text is made of: a value, the items of a list, or the members of an object,
at least one of each. -/
inductive Phrase where
  | value (v : Tree)
  | items (vs : List Tree)
  | members (ms : List (String × Tree))

inductive Written : Phrase → List Char → Prop where
  | null : Written (.value .null) ['n', 'u', 'l', 'l']
  | yes : Written (.value (.bool true)) ['t', 'r', 'u', 'e']
  | no : Written (.value (.bool false)) ['f', 'a', 'l', 's', 'e']
  | number {s : List Char} : NumberText s → Written (.value (.number s)) s
  | text {raw s : List Char} : StringText raw s →
      Written (.value (.text (String.ofList s))) ('"' :: (raw ++ ['"']))
  | emptyList {a : List Char} : Blank a → Written (.value (.list [])) ('[' :: (a ++ [']']))
  | list {vs : List Tree} {body : List Char} : Written (.items vs) body →
      Written (.value (.list vs)) ('[' :: (body ++ [']']))
  | emptyObject {a : List Char} : Blank a →
      Written (.value (.object [])) ('\x7b' :: (a ++ ['\x7d']))
  | object {ms : List (String × Tree)} {body : List Char} : Written (.members ms) body →
      Written (.value (.object ms)) ('\x7b' :: (body ++ ['\x7d']))
  | lastItem {a t b : List Char} {v : Tree} : Blank a → Written (.value v) t → Blank b →
      Written (.items [v]) (a ++ (t ++ b))
  | item {a t b more : List Char} {v : Tree} {vs : List Tree} : Blank a → Written (.value v) t →
      Blank b → Written (.items vs) more →
      Written (.items (v :: vs)) (a ++ (t ++ (b ++ ',' :: more)))
  | lastMember {a raw key b c t d : List Char} {v : Tree} : Blank a → StringText raw key →
      Blank b → Blank c → Written (.value v) t → Blank d →
      Written (.members [(String.ofList key, v)])
        (a ++ '"' :: (raw ++ '"' :: (b ++ ':' :: (c ++ (t ++ d)))))
  | member {a raw key b c t d more : List Char} {v : Tree} {ms : List (String × Tree)} : Blank a →
      StringText raw key → Blank b → Blank c → Written (.value v) t → Blank d →
      Written (.members ms) more →
      Written (.members ((String.ofList key, v) :: ms))
        (a ++ '"' :: (raw ++ '"' :: (b ++ ':' :: (c ++ (t ++ (d ++ ',' :: more))))))

@[simp] theorem ok_bind {α β : Type} (a : α) (f : α → Except Fault β) :
    (Except.ok a >>= f) = f a := rfl

@[simp] theorem error_bind {α β : Type} (e : Fault) (f : α → Except Fault β) :
    (Except.error e >>= f) = .error e := rfl

/- Blanks and what follows a value. -/

theorem skipBlank_append {a : List Char} (blank : Blank a) (s : List Char) :
    skipBlank (a ++ s) = skipBlank s := by
  induction a with
  | nil => rfl
  | cons c rest ih =>
    have here : isBlank c = true := by
      simpa [isBlank, or_assoc] using blank c List.mem_cons_self
    rw [skipBlank, List.cons_append, List.dropWhile_cons_of_pos here]
    exact ih fun d hd => blank d (List.mem_cons_of_mem c hd)

theorem skipBlank_cons {c : Char} (visible : isBlank c = false) (s : List Char) :
    skipBlank (c :: s) = c :: s :=
  List.dropWhile_cons_of_neg (by simp [visible])

/-- Nothing that would make a number longer. A number has no end of its own, so this is asked of
what follows a value. -/
def Stops (s : List Char) : Prop :=
  ∀ c, s.head? = some c → c.isDigit = false ∧ c ≠ '.' ∧ c ≠ 'e' ∧ c ≠ 'E'

theorem stops_cons {c : Char} (delimiter : c = ',' ∨ c = ']' ∨ c = '\x7d') (s : List Char) :
    Stops (c :: s) := by
  intro d first
  obtain rfl : c = d := by simpa using first
  rcases delimiter with rfl | rfl | rfl <;> decide

theorem stops_blank {a : List Char} (blank : Blank a) {s : List Char} (stops : Stops s) :
    Stops (a ++ s) := by
  cases a with
  | nil => exact stops
  | cons c rest =>
    intro d first
    obtain rfl : c = d := by simpa using first
    rcases blank c List.mem_cons_self with rfl | rfl | rfl | rfl <;> decide


/- Strings on their way in. -/

theorem hexValue?_of_digit {c : Char} {n : Nat} (digit : HexDigit c n) : hexValue? c = some n := by
  have lower : ∀ i : Fin 16, hexValue? ("0123456789abcdef".toList.get i) = some i.val := by decide
  have upper : ∀ i : Fin 16, hexValue? ("0123456789ABCDEF".toList.get i) = some i.val := by decide
  rcases digit with here | here
  · obtain ⟨bound, rfl⟩ := List.getElem?_eq_some_iff.mp here
    exact lower ⟨n, bound⟩
  · obtain ⟨bound, rfl⟩ := List.getElem?_eq_some_iff.mp here
    exact upper ⟨n, bound⟩

theorem hexNumber?_of_digits {a b c d : Char} {n : Nat} (digits : HexNumber a b c d n) :
    hexNumber? a b c d = some n := by
  obtain ⟨w, x, y, z, ha, hb, hc, hd, rfl⟩ := digits
  simp [hexNumber?, hexValue?_of_digit ha, hexValue?_of_digit hb, hexValue?_of_digit hc,
    hexValue?_of_digit hd]

theorem letterEscape?_of_mem {l c : Char} (known : (l, c) ∈ escapes) :
    letterEscape? l = some c ∧ l ≠ 'u' := by
  have all : ∀ e ∈ escapes, letterEscape? e.1 = some e.2 ∧ e.1 ≠ 'u' := by decide
  exact all (l, c) known

theorem stringBody_char {t : List Char} {c : Char} (written : CharText t c) (rest : List Char) :
    stringBody (t ++ rest) = prepend c (stringBody rest) := by
  cases written with
  | plain visible quote backslash =>
    rw [List.singleton_append, stringBody]
    · rw [if_neg (Nat.not_lt.mpr visible)]
    all_goals simp [quote, backslash]
  | letter known =>
    obtain ⟨value, notCode⟩ := letterEscape?_of_mem known
    rw [List.cons_append, List.singleton_append, stringBody]
    · rw [value]
    all_goals simp [notCode]
  | @code _ _ _ _ n digits single =>
    have trailing : isTrailing n = false := by
      simp only [isTrailing, Bool.and_eq_false_iff, decide_eq_false_iff_not]
      omega
    have leading : isLeading n = false := by
      simp only [isLeading, Bool.and_eq_false_iff, decide_eq_false_iff_not]
      omega
    simp only [List.cons_append, List.nil_append]
    rw [stringBody, hexNumber?_of_digits digits]
    simp [trailing, leading]
  | @pair _ _ _ _ _ _ _ _ n m first second high low =>
    have trailing : isTrailing n = false := by
      simp only [isTrailing, Bool.and_eq_false_iff, decide_eq_false_iff_not]
      omega
    have leading : isLeading n = true := by simp [isLeading, high]
    have trailing' : isTrailing m = true := by simp [isTrailing, low]
    simp only [List.cons_append, List.nil_append]
    rw [stringBody, hexNumber?_of_digits first]
    simp [trailing, leading, trailing', hexNumber?_of_digits second, pairChar]

theorem stringBody_text {raw s : List Char} (written : StringText raw s) (rest : List Char) :
    stringBody (raw ++ '"' :: rest) = .ok (s, rest) := by
  induction written with
  | nil => rw [List.nil_append, stringBody]
  | cons char _ ih =>
    rw [List.append_assoc, stringBody_char char, ih]
    rfl

theorem skipString_char {t : List Char} {c : Char} (written : CharText t c) (rest : List Char) :
    skipString (t ++ rest) = skipString rest := by
  cases written with
  | plain visible quote backslash =>
    rw [List.singleton_append, skipString]
    · rw [if_neg (Nat.not_lt.mpr visible)]
    all_goals simp [quote, backslash]
  | letter known =>
    obtain ⟨value, notCode⟩ := letterEscape?_of_mem known
    rw [List.cons_append, List.singleton_append, skipString]
    · rw [value]
    all_goals simp [notCode]
  | code digits _ =>
    simp only [List.cons_append, List.nil_append]
    rw [skipString, hexNumber?_of_digits digits]
  | pair first second _ _ =>
    simp only [List.cons_append, List.nil_append]
    rw [skipString, hexNumber?_of_digits first, skipString, hexNumber?_of_digits second]

theorem skipString_text {raw s : List Char} (written : StringText raw s) (rest : List Char) :
    skipString (raw ++ '"' :: rest) = .ok rest := by
  induction written with
  | nil => rw [List.nil_append, skipString]
  | cons char _ ih => rw [List.append_assoc, skipString_char char, ih]

/- Numbers that are skipped. -/

theorem digits_append {ds rest : List Char} (all : ∀ c ∈ ds, c.isDigit = true)
    (stops : ∀ c, rest.head? = some c → c.isDigit = false) : digits (ds ++ rest) = (ds, rest) := by
  have none : rest.takeWhile Char.isDigit = [] ∧ rest.dropWhile Char.isDigit = rest := by
    cases rest with
    | nil => exact ⟨rfl, rfl⟩
    | cons c more => simp [stops c rfl]
  rw [digits, List.takeWhile_append_of_pos all, List.dropWhile_append_of_pos all, none.1, none.2,
    List.append_nil]

theorem skipExponent_text {sign ds rest : List Char}
    (signed : sign = [] ∨ sign = ['+'] ∨ sign = ['-']) (written : DigitsText ds)
    (stops : Stops rest) :
    skipExponent (sign ++ (ds ++ rest)) = .ok rest := by
  obtain ⟨some, all⟩ := written
  obtain ⟨c, more, rfl⟩ := List.exists_cons_of_ne_nil some
  have digit : c.isDigit = true := all c List.mem_cons_self
  have others : digits (more ++ rest) = (more, rest) :=
    digits_append (fun d hd => all d (List.mem_cons_of_mem c hd)) fun d hd => (stops d hd).1
  rcases signed with rfl | rfl | rfl
  · have plus : c ≠ '+' := by rintro rfl; exact absurd digit (by decide)
    have minus : c ≠ '-' := by rintro rfl; exact absurd digit (by decide)
    simp [skipExponent, plus, minus, digit, others]
  · simp [skipExponent, digit, others]
  · simp [skipExponent, digit, others]

theorem skipAfterInteger_exponent {exponent rest : List Char} (written : ExponentText exponent)
    (stops : Stops rest) : skipAfterInteger (exponent ++ rest) = .ok rest := by
  rcases written with rfl | ⟨mark, sign, ds, rfl, known, signed, numeral⟩
  · cases rest with
    | nil => rfl
    | cons c more =>
      obtain ⟨-, point, small, large⟩ := stops c rfl
      rw [List.nil_append, skipAfterInteger]
      all_goals simp [point, small, large]
  · have skipped := skipExponent_text signed numeral stops
    rw [List.cons_append, List.append_assoc]
    rcases known with rfl | rfl <;> exact skipped

theorem exponent_head {exponent rest : List Char} (written : ExponentText exponent)
    (stops : Stops rest) (c : Char) (first : (exponent ++ rest).head? = some c) :
    c.isDigit = false := by
  rcases written with rfl | ⟨mark, sign, ds, rfl, known, -, -⟩
  · exact (stops c first).1
  · obtain rfl : mark = c := by simpa using first
    rcases known with rfl | rfl <;> rfl

theorem skipAfterInteger_text {fraction exponent rest : List Char}
    (fractional : FractionText fraction) (exponential : ExponentText exponent)
    (stops : Stops rest) : skipAfterInteger (fraction ++ (exponent ++ rest)) = .ok rest := by
  have tail := skipAfterInteger_exponent exponential stops
  rcases fractional with rfl | ⟨ds, rfl, some, all⟩
  · exact tail
  · have read := digits_append all (exponent_head exponential stops)
    have nonempty : ds.isEmpty = false := by simpa using some
    rw [List.cons_append, skipAfterInteger, read]
    simp only [nonempty, Bool.false_eq_true, if_false]
    -- behind the digits the two readers do the same, because no second point can follow
    rcases exponential with rfl | ⟨mark, sign, es, rfl, known, -, -⟩
    · cases rest with
      | nil => rfl
      | cons c more =>
        obtain ⟨-, -, small, large⟩ := stops c rfl
        simp [small, large]
    · rcases known with rfl | rfl <;> exact tail

theorem fraction_head {fraction exponent rest : List Char} (fractional : FractionText fraction)
    (exponential : ExponentText exponent) (stops : Stops rest) (c : Char)
    (first : (fraction ++ (exponent ++ rest)).head? = some c) : c.isDigit = false := by
  rcases fractional with rfl | ⟨ds, rfl, -⟩
  · exact exponent_head exponential stops c first
  · obtain rfl : '.' = c := by simpa using first
    rfl

theorem skipNumber_integer {whole rest : List Char} (written : IntegerText whole)
    (stops : ∀ c, rest.head? = some c → c.isDigit = false) :
    skipNumber (whole ++ rest) = skipAfterInteger rest := by
  rcases written with rfl | ⟨⟨some, all⟩, leading⟩
  · cases rest with
    | nil => rfl
    | cons c more => simp [skipNumber, stops c rfl]
  · obtain ⟨c, more, rfl⟩ := List.exists_cons_of_ne_nil some
    have digit : c.isDigit = true := all c List.mem_cons_self
    have others : digits (more ++ rest) = (more, rest) :=
      digits_append (fun d hd => all d (List.mem_cons_of_mem c hd)) stops
    rw [List.cons_append, skipNumber]
    · rw [if_pos digit, others]
    · simpa using leading

theorem skipNumber_text {whole fraction exponent rest : List Char} (integral : IntegerText whole)
    (fractional : FractionText fraction) (exponential : ExponentText exponent)
    (stops : Stops rest) :
    skipNumber (whole ++ (fraction ++ (exponent ++ rest))) = .ok rest := by
  rw [skipNumber_integer integral (fraction_head fractional exponential stops)]
  exact skipAfterInteger_text fractional exponential stops

/- Values that are skipped. -/

/-- Skipping goes on with the next item of the innermost bracket. -/
def enter (fuel : Nat) (open_ : List Bracket) (s : List Char) : Except Fault (List Char) := do
  skipItems fuel open_ (← skipKey open_ s)

/-- Skipping goes on behind a value, or behind an opening bracket if `first`. -/
def resume (first : Bool) (fuel : Nat) (open_ : List Bracket) (s : List Char) :
    Except Fault (List Char) := do
  let (open_, rest) ← skipClosers first open_ s
  if open_.isEmpty then .ok rest else enter fuel open_ rest

theorem skipBlank_idempotent (s : List Char) : skipBlank (skipBlank s) = skipBlank s :=
  List.dropWhile_idempotent isBlank s

theorem skipItems_skipBlank (fuel : Nat) (open_ : List Bracket) (s : List Char) :
    skipItems (fuel + 1) open_ (skipBlank s) = skipItems (fuel + 1) open_ s := by
  rw [skipItems, skipItems, skipBlank_idempotent]

theorem skipItems_blank {a : List Char} (blank : Blank a) (fuel : Nat) (open_ : List Bracket)
    (s : List Char) : skipItems (fuel + 1) open_ (a ++ s) = skipItems (fuel + 1) open_ s := by
  rw [← skipItems_skipBlank, skipBlank_append blank, skipItems_skipBlank]

theorem enter_skipBlank (fuel : Nat) (open_ : List Bracket) (s : List Char) :
    enter (fuel + 1) open_ (skipBlank s) = enter (fuel + 1) open_ s := by
  match open_ with
  | [] => exact skipItems_skipBlank fuel [] s
  | .list :: outer => exact skipItems_skipBlank fuel (.list :: outer) s
  | .object :: outer => rw [enter, enter, skipKey, skipKey, skipBlank_idempotent]

def Bracket.closer : Bracket → Char
  | .list => ']'
  | .object => '\x7d'

theorem resume_closer (first : Bool) {b : List Char} (blank : Blank b) (fuel : Nat)
    (bracket : Bracket) (outer : List Bracket) (rest : List Char) :
    resume first fuel (bracket :: outer) (b ++ bracket.closer :: rest) =
      resume false fuel outer rest := by
  cases bracket <;> cases first <;>
    simp [resume, skipClosers, skipBlank_append blank, Bracket.closer, skipBlank_cons, isBlank]

theorem resume_comma {b : List Char} (blank : Blank b) (fuel : Nat) (bracket : Bracket)
    (outer : List Bracket) (rest : List Char) :
    resume false fuel (bracket :: outer) (b ++ ',' :: rest) =
      enter fuel (bracket :: outer) rest := by
  simp [resume, skipClosers, skipBlank_append blank, skipBlank_cons, isBlank]

theorem resume_first {c : Char} {s rest : List Char} (visible : skipBlank s = c :: rest)
    (bracket : Bracket) (other : c ≠ ']' ∧ c ≠ '\x7d') (fuel : Nat) (outer : List Bracket) :
    resume true (fuel + 1) (bracket :: outer) s = enter (fuel + 1) (bracket :: outer) s := by
  rw [← enter_skipBlank, visible, resume, skipClosers, visible]
  simp [other]

/-- The text starts with something visible that closes no bracket. -/
def Opens (t : List Char) : Prop :=
  ∃ c s, (∀ rest, skipBlank (t ++ rest) = c :: (s ++ rest)) ∧ c ≠ ']' ∧ c ≠ '\x7d'

theorem opens_cons {c : Char} (visible : isBlank c = false) (other : c ≠ ']' ∧ c ≠ '\x7d')
    (s : List Char) : Opens (c :: s) :=
  ⟨c, s, fun rest => skipBlank_cons visible (s ++ rest), other⟩

theorem opens_append {a t : List Char} (blank : Blank a) (opens : Opens t) (s : List Char) :
    Opens (a ++ (t ++ s)) := by
  obtain ⟨c, more, shown, other⟩ := opens
  refine ⟨c, more ++ s, fun rest => ?_, other⟩
  rw [List.append_assoc, skipBlank_append blank, List.append_assoc, shown, List.append_assoc]

theorem digit_ne {c d : Char} (digit : c.isDigit = true) (none : d.isDigit = false) : c ≠ d := by
  rintro rfl
  exact absurd (digit.symm.trans none) (by decide)

theorem integer_head {whole : List Char} (integral : IntegerText whole) :
    ∃ c s, whole = c :: s ∧ c.isDigit = true := by
  rcases integral with rfl | ⟨⟨some, all⟩, -⟩
  · exact ⟨'0', [], rfl, rfl⟩
  · obtain ⟨c, s, rfl⟩ := List.exists_cons_of_ne_nil some
    exact ⟨c, s, rfl, all c List.mem_cons_self⟩

/-- The characters with which a value can start. -/
def Tree.Starts : Tree → Char → Prop
  | .null, c => c = 'n'
  | .bool _, c => c = 't' ∨ c = 'f'
  | .number _, c => c = '-' ∨ c.isDigit = true
  | .text _, c => c = '"'
  | .list _, c => c = '['
  | .object _, c => c = '\x7b'

theorem Written.starts {v : Tree} {t : List Char} (written : Written (.value v) t) :
    ∃ c s, t = c :: s ∧ v.Starts c := by
  cases written with
  | null => exact ⟨_, _, rfl, rfl⟩
  | yes => exact ⟨_, _, rfl, .inl rfl⟩
  | no => exact ⟨_, _, rfl, .inr rfl⟩
  | number numeral =>
    obtain ⟨sign, whole, fraction, exponent, rfl, signed, integral, -, -⟩ := numeral
    rcases signed with rfl | rfl
    · obtain ⟨c, more, rfl, digit⟩ := integer_head integral
      exact ⟨c, _, rfl, .inr digit⟩
    · exact ⟨_, _, rfl, .inl rfl⟩
  | text _ => exact ⟨_, _, rfl, rfl⟩
  | emptyList _ => exact ⟨_, _, rfl, rfl⟩
  | list _ => exact ⟨_, _, rfl, rfl⟩
  | emptyObject _ => exact ⟨_, _, rfl, rfl⟩
  | object _ => exact ⟨_, _, rfl, rfl⟩

theorem Tree.Starts.visible {v : Tree} {c : Char} (starts : v.Starts c) :
    isBlank c = false ∧ c ≠ ']' ∧ c ≠ '\x7d' := by
  cases v with
  | null => cases starts; decide
  | bool _ => rcases starts with rfl | rfl <;> decide
  | number _ =>
    rcases starts with rfl | digit
    · decide
    · simp [isBlank, digit_ne digit]
  | text _ => cases starts; decide
  | list _ => cases starts; decide
  | object _ => cases starts; decide

theorem opens_value {v : Tree} {t : List Char} (written : Written (.value v) t) : Opens t := by
  obtain ⟨c, s, rfl, starts⟩ := written.starts
  exact opens_cons starts.visible.1 starts.visible.2 s

theorem Written.opens {p : Phrase} {t : List Char} (written : Written p t) : Opens t := by
  cases p with
  | value v => exact opens_value written
  | items vs =>
    cases written with
    | lastItem before value _ => exact opens_append before (opens_value value) _
    | item before value _ _ => exact opens_append before (opens_value value) _
  | members ms =>
    cases written with
    | lastMember before => exact opens_append before (opens_cons rfl (by decide) []) _
    | member before => exact opens_append before (opens_cons rfl (by decide) []) _

/-- The text of a value is passed over in at most as many steps as it has characters. -/
def Skipped (t : List Char) : Prop :=
  ∃ n < t.length, ∀ fuel open_ rest, Stops rest →
    skipItems (fuel + n + 1) open_ (t ++ rest) = resume false fuel open_ rest

/-- The same of the items or members in a bracket, up to and with its end. -/
def SkippedIn (bracket : Bracket) (t : List Char) : Prop :=
  ∃ n < t.length, ∀ fuel outer rest,
    enter (fuel + n + 1) (bracket :: outer) (t ++ bracket.closer :: rest) =
      resume false fuel outer rest

/-- What stands in front of a value in a bracket. -/
def Leads (bracket : Bracket) (l : List Char) : Prop :=
  ∃ a, Blank a ∧ ∀ outer s, skipKey (bracket :: outer) (l ++ s) = .ok (a ++ s)

theorem leads_blank {a : List Char} (blank : Blank a) : Leads .list a :=
  ⟨a, blank, fun _ _ => rfl⟩

theorem leads_key {a raw key b c : List Char} (before : Blank a) (written : StringText raw key)
    (between : Blank b) (after : Blank c) :
    Leads .object (a ++ '"' :: (raw ++ '"' :: (b ++ ':' :: c))) := by
  refine ⟨c, after, fun outer s => ?_⟩
  have quote (s : List Char) : skipBlank ('"' :: s) = '"' :: s := skipBlank_cons rfl s
  have colon (s : List Char) : skipBlank (':' :: s) = ':' :: s := skipBlank_cons rfl s
  simp [skipKey, skipBlank_append before, quote, skipString_text written, skipBlank_append between,
    colon]

section Brackets

variable {bracket : Bracket} {l t b : List Char}

theorem enter_value (leads : Leads bracket l) {n : Nat} (fuel : Nat) (outer : List Bracket)
    (rest : List Char) :
    enter (fuel + n + 1) (bracket :: outer) (l ++ (t ++ rest)) =
      skipItems (fuel + n + 1) (bracket :: outer) (t ++ rest) := by
  obtain ⟨a, blank, key⟩ := leads
  rw [enter, key, ok_bind, skipItems_blank blank]

theorem skippedIn_last (leads : Leads bracket l) (value : Skipped t) (after : Blank b) :
    SkippedIn bracket (l ++ (t ++ b)) := by
  obtain ⟨n, bound, skip⟩ := value
  refine ⟨n, ?_, fun fuel outer rest => ?_⟩
  · simp only [List.length_append]
    omega
  · have stops : Stops (b ++ bracket.closer :: rest) :=
      stops_blank after (stops_cons (by cases bracket <;> simp [Bracket.closer]) rest)
    rw [List.append_assoc, List.append_assoc, enter_value leads, skip _ _ _ stops,
      resume_closer false after]

theorem skippedIn_more {more : List Char} (leads : Leads bracket l) (value : Skipped t)
    (after : Blank b) (others : SkippedIn bracket more) :
    SkippedIn bracket (l ++ (t ++ (b ++ ',' :: more))) := by
  obtain ⟨n, bound, skip⟩ := value
  obtain ⟨m, bound', skip'⟩ := others
  refine ⟨n + m + 1, ?_, fun fuel outer rest => ?_⟩
  · simp only [List.length_append, List.length_cons]
    omega
  · have stops : Stops (b ++ ',' :: (more ++ bracket.closer :: rest)) :=
      stops_blank after (stops_cons (.inl rfl) _)
    -- the steps for the value come first; what is left of them is spent on the others
    have steps : fuel + (n + m + 1) + 1 = (fuel + m + 1) + n + 1 := by omega
    rw [List.append_assoc, List.append_assoc, List.append_assoc, List.cons_append, steps,
      enter_value leads, skip _ _ _ stops, resume_comma after, skip']

theorem skipped_bracket {opener : Char} (opening : ∀ fuel open_ s,
      skipItems (fuel + 1) open_ (opener :: s) = resume true fuel (bracket :: open_) s)
    (opens : Opens t) (inside : SkippedIn bracket t) :
    Skipped (opener :: (t ++ [bracket.closer])) := by
  obtain ⟨n, bound, skip⟩ := inside
  obtain ⟨c, s, visible, other⟩ := opens
  refine ⟨n + 1, ?_, fun fuel open_ rest stops => ?_⟩
  · simp only [List.length_cons, List.length_append]
    omega
  · rw [List.cons_append, List.append_assoc, opening, List.singleton_append, ← Nat.add_assoc,
      resume_first (visible _) bracket other, skip]

theorem skipped_empty {opener : Char} (opening : ∀ fuel open_ s,
      skipItems (fuel + 1) open_ (opener :: s) = resume true fuel (bracket :: open_) s)
    (blank : Blank b) : Skipped (opener :: (b ++ [bracket.closer])) := by
  refine ⟨0, Nat.succ_pos _, fun fuel open_ rest stops => ?_⟩
  rw [List.cons_append, List.append_assoc, opening, List.singleton_append,
    resume_closer true blank]

end Brackets

theorem skipItems_list (fuel : Nat) (open_ : List Bracket) (s : List Char) :
    skipItems (fuel + 1) open_ ('[' :: s) = resume true fuel (.list :: open_) s := rfl

theorem skipItems_object (fuel : Nat) (open_ : List Bracket) (s : List Char) :
    skipItems (fuel + 1) open_ ('\x7b' :: s) = resume true fuel (.object :: open_) s := rfl

theorem skipped_number {s : List Char} (written : NumberText s) : Skipped s := by
  obtain ⟨sign, whole, fraction, exponent, rfl, signed, integral, fractional, exponential⟩ :=
    written
  obtain ⟨c, more, rfl, digit⟩ := integer_head integral
  have nonempty : 0 < (sign ++ (c :: more ++ (fraction ++ exponent))).length := by
    simp only [List.length_append, List.length_cons]
    omega
  refine ⟨0, nonempty, fun fuel open_ rest stops => ?_⟩
  have skip := skipNumber_text integral fractional exponential stops
  simp only [List.append_assoc, List.cons_append] at skip ⊢
  rcases signed with rfl | rfl
  · have blank : isBlank c = false := by simp [isBlank, digit_ne digit]
    simp [skipItems, skipBlank_cons blank, digit, digit_ne digit, skip, resume,
      enter]
  · have minus (s : List Char) : skipBlank ('-' :: s) = '-' :: s := skipBlank_cons rfl s
    simp [skipItems, minus, skip, resume, enter]

theorem skipped_string {raw s : List Char} (written : StringText raw s) :
    Skipped ('"' :: (raw ++ ['"'])) := by
  refine ⟨0, Nat.succ_pos _, fun fuel open_ rest stops => ?_⟩
  have quote (s : List Char) : skipBlank ('"' :: s) = '"' :: s := skipBlank_cons rfl s
  simp [skipItems, quote, skipString_text written, resume, enter]

/-- Whatever stands in a text, skipping a part of it ends where the part does. -/
theorem Written.skipped {p : Phrase} {t : List Char} (written : Written p t) :
    match p with
    | .value _ => Skipped t
    | .items _ => SkippedIn .list t
    | .members _ => SkippedIn .object t := by
  -- one case for each rule of the grammar; lists and objects differ only in what leads to a value
  induction written with
  | null => exact ⟨0, by decide, fun _ _ _ _ => rfl⟩
  | yes => exact ⟨0, by decide, fun _ _ _ _ => rfl⟩
  | no => exact ⟨0, by decide, fun _ _ _ _ => rfl⟩
  | number numeral => exact skipped_number numeral
  | text string => exact skipped_string string
  | emptyList blank => exact skipped_empty skipItems_list blank
  | list items ih => exact skipped_bracket skipItems_list items.opens ih
  | emptyObject blank => exact skipped_empty skipItems_object blank
  | object members ih => exact skipped_bracket skipItems_object members.opens ih
  | lastItem before _ after ih => exact skippedIn_last (leads_blank before) ih after
  | item before _ after _ ih others => exact skippedIn_more (leads_blank before) ih after others
  | lastMember before key between after _ end_ ih =>
    simpa using skippedIn_last (leads_key before key between after) ih end_
  | member before key between after _ end_ _ ih others =>
    simpa using skippedIn_more (leads_key before key between after) ih end_ others

/-- A value that nobody asked for is passed over, with nothing of what follows it. -/
theorem skipValue_written {a t : List Char} {v : Tree} (before : Blank a)
    (written : Written (.value v) t) {rest : List Char} (stops : Stops rest) :
    skipValue (a ++ (t ++ rest)) = .ok rest := by
  obtain ⟨n, bound, skip⟩ : Skipped t := written.skipped
  have steps : (a ++ (t ++ rest)).length + 1 =
      (a.length + (t.length - n) + rest.length) + n + 1 := by
    simp only [List.length_append]
    omega
  rw [skipValue, steps, skipItems_blank before, skip _ _ _ stops]
  rfl

end BranchCount.Json
