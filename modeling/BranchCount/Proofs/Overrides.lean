import Mathlib.Data.List.Forall2
import BranchCount.Codec.Rules
import BranchCount.Proofs.JsonRecords

/-!
The format of override files. A file is one object, of which thirteen fields are recognised; every
flag has two spellings, made from the same words. Main statement: a file is accepted exactly if no
field is given twice, in whatever spelling, and every field has a value of its type or `null`; laid
over a rule set it then changes the fields that it gives, and nothing else in the file makes a
difference.
-/
namespace BranchCount

open Json (Tree Written Blank Holds Member)

/-- The words that the keys of a flag are made of. -/
def Flag.words : Flag → List String
  | conditional => ["count", "if"]
  | whileLoop => ["count", "while"]
  | forLoop => ["count", "for"]
  | handler => ["count", "except"]
  | assertion => ["count", "assert"]
  | boolOp => ["count", "bool", "op"]
  | ternary => ["count", "ternary"]
  | comprehension => ["count", "comprehension"]
  | filter => ["count", "comprehension", "if"]
  | matchCase => ["count", "match"]
  | withBlock => ["count", "with"]

def camelCase : List String → String
  | [] => ""
  | first :: others => first ++ String.join (others.map String.capitalize)

def kebabCase (words : List String) : String :=
  "-".intercalate words

theorem Flag.key_eq (flag : Flag) : flag.key = camelCase flag.words := by
  cases flag <;> decide +kernel

theorem Flag.dashedKey_eq (flag : Flag) : flag.dashedKey = kebabCase flag.words := by
  cases flag <;> decide +kernel

namespace RuleOverride

/-- What an override file can give. -/
inductive Field where
  | name
  | description
  | flag (f : Flag)
deriving DecidableEq

namespace Field

def all : List Field :=
  name :: description :: Flag.all.map flag

/-- The keys under which a field is recognised. -/
def keys : Field → List String
  | name => ["name"]
  | description => ["description"]
  | flag f => [camelCase f.words, kebabCase f.words]

/-- The values that a field may be given. -/
def Accepts : Field → Tree → Prop
  | flag _, v => v = .bool true ∨ v = .bool false ∨ v = .null
  | _, v => (∃ s, v = .text s) ∨ v = .null

theorem mem_all (field : Field) : field ∈ all := by
  cases field with
  | name => simp [all]
  | description => simp [all]
  | flag f => cases f <;> simp [all, Flag.all]

theorem keys_disjoint {f g : Field} {key : String} (here : key ∈ f.keys) (there : key ∈ g.keys) :
    f = g := by
  have apart : ∀ f ∈ all, ∀ g ∈ all, ∀ key ∈ f.keys, key ∈ g.keys → f = g := by decide +kernel
  exact apart f (mem_all f) g (mem_all g) key here there

def ofKey? (key : String) : Option Field :=
  all.find? fun field => decide (key ∈ field.keys)

theorem ofKey?_eq_some {key : String} {field : Field} (known : key ∈ field.keys) :
    ofKey? key = some field := by
  cases found : ofKey? key with
  | none => exact absurd known (by simpa using List.find?_eq_none.mp found field (mem_all field))
  | some other =>
    have fits : key ∈ other.keys := by simpa using List.find?_some found
    rw [keys_disjoint fits known]

theorem ofKey?_eq_none {key : String} (unknown : ∀ field : Field, key ∉ field.keys) :
    ofKey? key = none := by
  apply List.find?_eq_none.mpr
  intro field _
  simpa using unknown field

end Field

/-- An override of which some members have been read. -/
abbrev Partly : Type := PartialRules (Option String) (Option Bool)

namespace Partly

/-- The value that was read for a field. -/
def value? (p : Partly) : Field → Option Tree
  | .name => p.name.map fun given => given.elim .null .text
  | .description => p.description.map fun given => given.elim .null .text
  | .flag f => (p.counts f).map fun given => given.elim .null .bool

def put? (p : Partly) : Field → Tree → Option Partly
  | .name, v => v.asText?.map fun given => { p with name := some given }
  | .description, v => v.asText?.map fun given => { p with description := some given }
  | .flag f, v => v.asFlag?.map (p.setFlag f)

/-- Goes on with one more member. -/
def take? (p : Partly) (m : String × Tree) : Option Partly :=
  match Field.ofKey? m.1 with
  | none => some p
  | some field => if (p.value? field).isSome then none else p.put? field m.2

theorem asText?_eq_some {v : Tree} {given : Option String} (read : v.asText? = some given) :
    v = given.elim .null .text := by
  cases v <;> cases read <;> rfl

theorem asFlag?_eq_some {v : Tree} {given : Option Bool} (read : v.asFlag? = some given) :
    v = given.elim .null .bool := by
  cases v <;> cases read <;> rfl

theorem put?_isSome (p : Partly) (field : Field) (v : Tree) :
    (p.put? field v).isSome ↔ field.Accepts v := by
  cases field with
  | name | description => cases v <;> simp [put?, Tree.asText?, Field.Accepts]
  | flag f =>
    cases v with
    | bool b => cases b <;> simp [put?, Tree.asFlag?, Field.Accepts]
    | _ => simp [put?, Tree.asFlag?, Field.Accepts]

theorem put?_value {p q : Partly} {field : Field} {v : Tree} (put : p.put? field v = some q)
    (g : Field) : q.value? g = if g = field then some v else p.value? g := by
  cases field with
  | name | description =>
    obtain ⟨given, read, rfl⟩ := Option.map_eq_some_iff.mp put
    cases g <;> simp [value?, asText?_eq_some read]
  | flag f =>
    obtain ⟨given, read, rfl⟩ := Option.map_eq_some_iff.mp put
    cases g with
    | name | description => simp [value?, PartialRules.setFlag]
    | flag g =>
      by_cases same : g = f <;>
        simp [value?, PartialRules.setFlag, same, asFlag?_eq_some read]

end Partly

/-- What a member of the record has to do to read the field. -/
structure Handles (field : Field) (m : Member Partly) : Prop where
  key : ∀ key, (m.name = key || m.aliases.contains key) = decide (key ∈ field.keys)
  isSet : ∀ p : Partly, m.isSet p = (p.value? field).isSome
  read : ∀ (p : Partly) {a t : List Char} {v : Tree} (rest : List Char), Blank a →
    Written (.value v) t → (m.read p (a ++ (t ++ rest))).toOption = (p.put? field v).map (·, rest)

-- Both lists are in the order of the record, so a crossed pair of fields has no proof here.
theorem fields_handle : List.Forall₂ Handles Field.all shape.fields := by
  refine .cons ?name (.cons ?description ?flags)
  case name | description =>
    refine ⟨fun key => ?_, fun p => ?_, fun p a t v rest blank written => ?_⟩
    · simp [Field.keys, eq_comm]
    · simp [Partly.value?]
    · rw [Json.toOption_bind, Json.optional_text "a string" blank written]
      cases read : v.asText? <;> simp [Partly.put?, read]
  case flags =>
    rw [List.forall₂_map_left_iff, List.forall₂_map_right_iff, List.forall₂_same]
    intro f _
    refine ⟨fun key => ?_, fun p => ?_, fun p a t v rest blank written => ?_⟩
    · simp [Field.keys, Flag.key_eq, Flag.dashedKey_eq, eq_comm]
    · simp [Partly.value?]
    · rw [Json.toOption_bind, Json.optional_bool blank written]
      cases read : v.asFlag? <;> simp [Partly.put?, read]

theorem find?_related {α β : Type} {related : α → β → Prop} {p : α → Bool} {q : β → Bool}
    (agree : ∀ a b, related a b → q b = p a) {xs : List α} {ys : List β}
    (all : List.Forall₂ related xs ys) : Option.Rel related (xs.find? p) (ys.find? q) := by
  induction all with
  | nil => exact .none
  | @cons x y xs ys here _ ih =>
    have same := agree x y here
    cases test : p x with
    | true =>
      rw [List.find?_cons_of_pos test, List.find?_cons_of_pos (same.trans test)]
      exact .some here
    | false =>
      rw [List.find?_cons_of_neg (by simp [test]), List.find?_cons_of_neg (by simp [same, test])]
      exact ih

theorem field?_handles (key : String) : Option.Rel Handles (Field.ofKey? key) (shape.field? key) :=
  find?_related (fun _ _ handles => handles.key key) fields_handle

theorem shape_takes : shape.Takes Partly.take? := by
  intro (p : Partly) key v b c t rest between after written stops
  have related := field?_handles key
  rw [Json.Shape.member, Partly.take?]
  cases known : Field.ofKey? key with
  | none =>
    rw [known] at related
    cases found : shape.field? key with
    | some m => rw [found] at related; cases related
    | none =>
      have skipped := Json.skipValue_written after written stops
      simp [Json.colon_text between, shape, skipped]
  | some field =>
    rw [known] at related
    cases found : shape.field? key with
    | none => rw [found] at related; cases related
    | some m =>
      rw [found] at related
      cases related with
      | some handles =>
        simp only [handles.isSet]
        by_cases set : (p.value? field).isSome = true
        · simp [set]
        · simp [set, Json.colon_text between, handles.read p rest after written]

def Partly.override (p : Partly) : RuleOverride where
  name := p.name.join
  description := p.description.join
  counts f := (p.counts f).join

/-- Reading a file is taking its members one after the other. -/
theorem parse_members {text : String} {ms : List (String × Tree)}
    (holds : Holds text (.object ms)) :
    (parse text).toOption = (ms.foldlM Partly.take? {}).map Partly.override := by
  apply Json.decode_holds holds
  intro a t rest before written
  rw [Json.Shape.decode_object shape_takes before written]
  show (ms.foldlM Partly.take? {}).bind _ = _
  cases ms.foldlM Partly.take? {} <;> rfl

/- The members of a file. -/

/-- No field is given twice, and every field has a value of its type. -/
structure Acceptable (ms : List (String × Tree)) : Prop where
  once : ∀ field : Field, ms.countP (fun m => m.1 ∈ field.keys) ≤ 1
  fits : ∀ field : Field, ∀ m ∈ ms, m.1 ∈ field.keys → field.Accepts m.2

theorem acceptable_nil : Acceptable [] :=
  ⟨fun _ => Nat.zero_le 1, fun _ _ member => by cases member⟩

theorem acceptable_cons {m : String × Tree} {ms : List (String × Tree)} :
    Acceptable (m :: ms) ↔
      (∀ field : Field, m.1 ∈ field.keys → field.Accepts m.2 ∧ ∀ n ∈ ms, n.1 ∉ field.keys) ∧
        Acceptable ms := by
  constructor
  · intro ⟨once, fits⟩
    refine ⟨fun field known => ⟨fits field m List.mem_cons_self known, ?_⟩, ?_, ?_⟩
    · have single := once field
      rw [List.countP_cons_of_pos (by simpa using known)] at single
      simpa using List.countP_eq_zero.mp (Nat.le_zero.mp (Nat.le_of_succ_le_succ single))
    · exact fun field => Nat.le_trans (List.sublist_cons_self m ms).countP_le (once field)
    · exact fun field n member => fits field n (List.mem_cons_of_mem m member)
  · rintro ⟨head, once, fits⟩
    refine ⟨fun field => ?_, fun field n member known => ?_⟩
    · by_cases known : m.1 ∈ field.keys
      · have none : ms.countP (fun n => n.1 ∈ field.keys) = 0 :=
          List.countP_eq_zero.mpr (by simpa using (head field known).2)
        rw [List.countP_cons_of_pos (by simpa using known), none]
      · rw [List.countP_cons_of_neg (by simpa using known)]
        exact once field
    · rcases List.mem_cons.mp member with rfl | member
      · exact (head field known).1
      · exact fits field n member known

/-- One of the members has a key of the field and the value. -/
def Gives (ms : List (String × Tree)) (field : Field) (v : Tree) : Prop :=
  ∃ key ∈ field.keys, (key, v) ∈ ms

theorem gives_cons {m : String × Tree} {ms : List (String × Tree)} {field : Field} {v : Tree} :
    Gives (m :: ms) field v ↔ (m.1 ∈ field.keys ∧ m.2 = v) ∨ Gives ms field v := by
  constructor
  · rintro ⟨key, known, member⟩
    rcases List.mem_cons.mp member with rfl | member
    · exact .inl ⟨known, rfl⟩
    · exact .inr ⟨key, known, member⟩
  · rintro (⟨known, rfl⟩ | ⟨key, known, member⟩)
    · exact ⟨m.1, known, List.mem_cons_self⟩
    · exact ⟨key, known, List.mem_cons_of_mem m member⟩

def recognised (ms : List (String × Tree)) : List (String × Tree) :=
  ms.filter fun m => Field.all.any fun field => m.1 ∈ field.keys

namespace Partly

theorem take?_known {key : String} {field : Field} (known : key ∈ field.keys) (p : Partly)
    (v : Tree) :
    p.take? (key, v) = if (p.value? field).isSome then none else p.put? field v := by
  rw [take?, Field.ofKey?_eq_some known]

theorem take?_unknown {key : String} (unknown : ∀ field : Field, key ∉ field.keys) (p : Partly)
    (v : Tree) : p.take? (key, v) = some p := by
  rw [take?, Field.ofKey?_eq_none unknown]

/-- A member is taken if its field is still open and its value fits. -/
theorem take?_isSome (p : Partly) (m : String × Tree) :
    (p.take? m).isSome ↔
      ∀ field : Field, m.1 ∈ field.keys → p.value? field = none ∧ field.Accepts m.2 := by
  obtain ⟨key, v⟩ := m
  by_cases known : ∃ field : Field, key ∈ field.keys
  · obtain ⟨field, known⟩ := known
    have only : (∀ g : Field, key ∈ g.keys → p.value? g = none ∧ g.Accepts v) ↔
        p.value? field = none ∧ field.Accepts v :=
      ⟨fun all => all field known, fun here g there => Field.keys_disjoint known there ▸ here⟩
    rw [only, take?_known known, ← put?_isSome p field v]
    cases p.value? field <;> simp
  · have unknown : ∀ field : Field, key ∉ field.keys := fun field here => known ⟨field, here⟩
    simp [take?_unknown unknown, unknown]

theorem take?_value {p q : Partly} {m : String × Tree} (taken : p.take? m = some q)
    (field : Field) :
    q.value? field = if m.1 ∈ field.keys then some m.2 else p.value? field := by
  obtain ⟨key, v⟩ := m
  by_cases known : ∃ g : Field, key ∈ g.keys
  · obtain ⟨g, known⟩ := known
    rw [take?_known known] at taken
    have put : p.put? g v = some q := by
      by_cases set : (p.value? g).isSome = true
      · simp [set] at taken
      · simpa [set] using taken
    have same : key ∈ field.keys ↔ field = g :=
      ⟨fun here => Field.keys_disjoint here known, fun h => h ▸ known⟩
    simp [put?_value put, same]
  · have unknown : ∀ g : Field, key ∉ g.keys := fun g here => known ⟨g, here⟩
    rw [take?_unknown unknown] at taken
    cases taken
    simp [unknown]

/-- The members can all be taken: they are acceptable, and what they give is still open. -/
def Admits (p : Partly) (ms : List (String × Tree)) : Prop :=
  Acceptable ms ∧ ∀ field : Field, ∀ m ∈ ms, m.1 ∈ field.keys → p.value? field = none

theorem admits_taken {p : Partly} {m : String × Tree} {ms : List (String × Tree)}
    (admits : p.Admits (m :: ms)) : (p.take? m).isSome := by
  obtain ⟨acceptable, free⟩ := admits
  apply (take?_isSome p m).mpr
  intro field known
  exact ⟨free field m List.mem_cons_self known, acceptable.fits field m List.mem_cons_self known⟩

theorem admits_step {p q : Partly} {m : String × Tree} {ms : List (String × Tree)}
    (step : p.take? m = some q) : q.Admits ms ↔ p.Admits (m :: ms) := by
  have here := (take?_isSome p m).mp (by simp [step])
  have value := take?_value step
  rw [Admits, Admits, acceptable_cons]
  constructor
  · rintro ⟨acceptable, free⟩
    -- a field that `m` has filled is not open for what follows
    have later : ∀ field : Field, m.1 ∈ field.keys → ∀ n ∈ ms, n.1 ∉ field.keys := by
      intro field known n member again
      have filled := free field n member again
      rw [value, if_pos known] at filled
      cases filled
    refine ⟨⟨fun field known => ⟨(here field known).2, later field known⟩, acceptable⟩, ?_⟩
    intro field n member known
    rcases List.mem_cons.mp member with rfl | member
    · exact (here field known).1
    · have other : m.1 ∉ field.keys := fun given => later field given n member known
      have same := free field n member known
      rwa [value, if_neg other] at same
  · rintro ⟨⟨head, acceptable⟩, free⟩
    refine ⟨acceptable, fun field n member known => ?_⟩
    have other : m.1 ∉ field.keys := fun given => (head field given).2 n member known
    rw [value, if_neg other]
    exact free field n (List.mem_cons_of_mem m member) known

theorem foldlM_isSome (ms : List (String × Tree)) (p : Partly) :
    (ms.foldlM take? p).isSome ↔ p.Admits ms := by
  induction ms generalizing p with
  | nil => simp [Admits, acceptable_nil]
  | cons m ms ih =>
    rw [List.foldlM_cons]
    cases step : p.take? m with
    | none =>
      constructor
      · intro read
        cases read
      · intro admits
        have taken := admits_taken admits
        rw [step] at taken
        cases taken
    | some q => exact (ih q).trans (admits_step step)

theorem foldlM_value {ms : List (String × Tree)} {p q : Partly} (read : ms.foldlM take? p = some q)
    (field : Field) (v : Tree) :
    q.value? field = some v ↔ p.value? field = some v ∨ Gives ms field v := by
  induction ms generalizing p with
  | nil =>
    cases read
    simp [Gives]
  | cons m ms ih =>
    rw [List.foldlM_cons] at read
    obtain ⟨next, taken, rest⟩ := Option.bind_eq_some_iff.mp read
    rw [ih rest, take?_value taken, gives_cons]
    by_cases known : m.1 ∈ field.keys
    · have open_ := ((take?_isSome p m).mp (by simp [taken]) field known).1
      simp [known, open_]
    · simp [known]

end Partly

/- What a file says about a rule set. -/

def value? (o : RuleOverride) : Field → Option Tree
  | .name => o.name.map .text
  | .description => o.description.map .text
  | .flag f => (o.counts f).map .bool

theorem eq_of_value? {o o' : RuleOverride} (same : ∀ field, o.value? field = o'.value? field) :
    o = o' := by
  have names : o.name = o'.name := Option.map_injective (fun _ _ => Tree.text.inj) (same .name)
  have descriptions : o.description = o'.description :=
    Option.map_injective (fun _ _ => Tree.text.inj) (same .description)
  have flags : o.counts = o'.counts :=
    funext fun f => Option.map_injective (fun _ _ => Tree.bool.inj) (same (.flag f))
  cases o
  cases o'
  cases names
  cases descriptions
  cases flags
  rfl

theorem join_value {α : Type} {make : α → Tree} (real : ∀ a, make a ≠ .null)
    (given : Option (Option α)) (v : Tree) :
    given.join.map make = some v ↔ (given.map fun g => g.elim .null make) = some v ∧ v ≠ .null := by
  match given with
  | none => simp
  | some none => simp [eq_comm]
  | some (some a) =>
    constructor
    · intro same
      cases same
      exact ⟨rfl, real a⟩
    · exact fun same => same.1

theorem override_value? (p : Partly) (field : Field) (v : Tree) :
    p.override.value? field = some v ↔ p.value? field = some v ∧ v ≠ .null := by
  cases field with
  | name => exact join_value (fun _ => Tree.noConfusion) p.name v
  | description => exact join_value (fun _ => Tree.noConfusion) p.description v
  | flag f => exact join_value (fun _ => Tree.noConfusion) (p.counts f) v

theorem parse_isOk {text : String} {ms : List (String × Tree)} (holds : Holds text (.object ms)) :
    (parse text).toOption.isSome ↔ Acceptable ms := by
  have start : ∀ field, Partly.value? {} field = none := by
    intro field
    cases field <;> rfl
  rw [parse_members holds, Option.isSome_map, Partly.foldlM_isSome]
  simp [Partly.Admits, start]

-- Both spellings of one flag, and `null` is no excuse.
example : (parse "\x7b\"countIf\":null,\"count-if\":false\x7d").toOption.isNone = true := by
  decide +kernel

theorem parse_value {text : String} {ms : List (String × Tree)} (holds : Holds text (.object ms))
    {o : RuleOverride} (parsed : parse text = .ok o) (field : Field) (v : Tree) :
    o.value? field = some v ↔ Gives ms field v ∧ v ≠ .null := by
  have read := parse_members holds
  rw [parsed] at read
  obtain ⟨p, taken, rfl⟩ := Option.map_eq_some_iff.mp read.symm
  have empty : Partly.value? {} field ≠ some v := by cases field <;> simp [Partly.value?]
  rw [override_value?, Partly.foldlM_value taken, or_iff_right empty]

theorem mem_recognised {m : String × Tree} {ms : List (String × Tree)} {field : Field}
    (known : m.1 ∈ field.keys) : m ∈ recognised ms ↔ m ∈ ms := by
  have some : ∃ field ∈ Field.all, m.1 ∈ field.keys := ⟨field, field.mem_all, known⟩
  simpa [recognised] using fun _ => some

theorem countP_recognised (ms : List (String × Tree)) (field : Field) :
    (recognised ms).countP (fun m => m.1 ∈ field.keys) = ms.countP fun m => m.1 ∈ field.keys := by
  rw [recognised, List.countP_filter]
  apply List.countP_congr
  intro m _
  have any (known : m.1 ∈ field.keys) : ∃ field ∈ Field.all, m.1 ∈ field.keys :=
    ⟨field, field.mem_all, known⟩
  simpa using any

/-- Files with the same recognised members in any order say the same. -/
theorem gives_perm {ms ms' : List (String × Tree)} (same : (recognised ms).Perm (recognised ms'))
    (field : Field) (v : Tree) : Gives ms field v ↔ Gives ms' field v := by
  refine exists_congr fun key => and_congr_right fun known => ?_
  exact (mem_recognised known).symm.trans (same.mem_iff.trans (mem_recognised known))

theorem acceptable_perm {ms ms' : List (String × Tree)}
    (same : (recognised ms).Perm (recognised ms')) (acceptable : Acceptable ms) :
    Acceptable ms' := by
  refine ⟨fun field => ?_, fun field m member known => ?_⟩
  · rw [← countP_recognised, ← same.countP_eq, countP_recognised]
    exact acceptable.once field
  · have there : m ∈ ms :=
      (mem_recognised known).mp (same.mem_iff.mpr ((mem_recognised known).mpr member))
    exact acceptable.fits field m there known

theorem parse_recognised {text text' : String} {ms ms' : List (String × Tree)}
    (holds : Holds text (.object ms)) (holds' : Holds text' (.object ms'))
    (same : (recognised ms).Perm (recognised ms')) :
    (parse text').toOption = (parse text).toOption := by
  have accepted : (parse text).toOption.isSome ↔ (parse text').toOption.isSome := by
    rw [parse_isOk holds, parse_isOk holds']
    exact ⟨acceptable_perm same, acceptable_perm same.symm⟩
  cases parsed : parse text with
  | error e =>
    cases parsed' : parse text' with
    | error e' => rfl
    | ok o' => simp [parsed, parsed'] at accepted
  | ok o =>
    cases parsed' : parse text' with
    | error e' => simp [parsed, parsed'] at accepted
    | ok o' =>
      have agree : ∀ field, o'.value? field = o.value? field := by
        intro field
        apply Option.ext
        intro v
        rw [parse_value holds' parsed', parse_value holds parsed, gives_perm same]
      rw [eq_of_value? agree]

end RuleOverride

def RuleSet.value (rules : RuleSet) : RuleOverride.Field → Tree
  | .name => .text rules.name
  | .description => .text rules.description
  | .flag f => .bool (rules.counts f)

theorem RuleSet.apply_value (rules : RuleSet) (o : RuleOverride) (field : RuleOverride.Field) :
    (rules.apply o).value field = (o.value? field).getD (rules.value field) := by
  cases field with
  | name => cases given : o.name <;> simp [apply, value, RuleOverride.value?, given]
  | description => cases given : o.description <;> simp [apply, value, RuleOverride.value?, given]
  | flag f => cases given : o.counts f <;> simp [apply, value, RuleOverride.value?, given]

namespace RuleOverride

/-- Which files are accepted, what an accepted file changes, and what makes no difference: the order
of the members, and those without a meaning. -/
theorem parse_object {text : String} {ms : List (String × Tree)} (holds : Holds text (.object ms)) :
    ((∃ o, parse text = .ok o) ↔ Acceptable ms) ∧
    (∀ o, parse text = .ok o → ∀ (base : RuleSet) (field : Field),
      (∀ v, Gives ms field v → v ≠ .null → (base.apply o).value field = v) ∧
      ((∀ v, Gives ms field v → v = .null) → (base.apply o).value field = base.value field)) ∧
    (∀ text' ms', Holds text' (.object ms') → (recognised ms).Perm (recognised ms') →
      (parse text').toOption = (parse text).toOption) := by
  refine ⟨?accepted, ?effect, ?order⟩
  case accepted =>
    rw [← parse_isOk holds]
    cases parse text <;> simp
  case effect =>
    intro o parsed base field
    have given := parse_value holds parsed field
    rw [RuleSet.apply_value]
    constructor
    · intro v gives real
      rw [(given v).mpr ⟨gives, real⟩, Option.getD_some]
    · intro nothing
      cases there : o.value? field with
      | none => rfl
      | some v =>
        have gives := (given v).mp there
        exact absurd (nothing v gives.1) gives.2
  case order => exact fun text' ms' holds' same => parse_recognised holds holds' same

/-- A file with blanks, an escape in a key, both ways of spelling, a `null` and a member of no
meaning. -/
def sampleText : String :=
  "\x7b\"count-with\" : true, \"more\": [1.5e+3, \x7b\x7d], " ++
    "\"n\\u0061me\":\"T\", \"countIf\":null\x7d"

def sampleMembers : List (String × Tree) :=
  [("count-with", .bool true),
    ("more", .list [.number ['1', '.', '5', 'e', '+', '3'], .object []]),
    ("name", .text "T"), ("countIf", .null)]

theorem sample_holds : Holds sampleText (.object sampleMembers) := by
  have none : Blank [] := by simp [Blank]
  have space : Blank [' '] := by simp [Blank]
  have digit {c : Char} (here : c.isDigit = true) : Json.DigitsText [c] :=
    ⟨by simp, by simpa using here⟩
  have number : Json.NumberText ['1', '.', '5', 'e', '+', '3'] :=
    ⟨[], ['1'], ['.', '5'], ['e', '+', '3'], rfl, .inl rfl, .inr ⟨digit rfl, by decide⟩,
      .inr ⟨['5'], rfl, digit rfl⟩,
      .inr ⟨'e', ['+'], ['3'], rfl, .inl rfl, .inr (.inl rfl), digit rfl⟩⟩
  have list : Written (.value (.list [.number ['1', '.', '5', 'e', '+', '3'], .object []])) _ :=
    .list (.item none (.number number) none (.lastItem space (.emptyObject none) none))
  have code : Json.HexNumber '0' '0' '6' '1' 97 :=
    ⟨0, 0, 6, 1, .inl rfl, .inl rfl, .inl rfl, .inl rfl, rfl⟩
  have name : Json.StringText ('n' :: (['\\', 'u', '0', '0', '6', '1'] ++ ['m', 'e']))
      "name".toList :=
    .cons (.plain (by decide) (by decide) (by decide))
      (.cons (.code code (by decide)) (Json.stringText_plain rfl))
  have withKey := Json.stringText_plain (s := "count-with".toList) (by decide +kernel)
  have more := Json.stringText_plain (s := "more".toList) (by decide +kernel)
  have ifKey := Json.stringText_plain (s := "countIf".toList) (by decide +kernel)
  have team := Json.stringText_plain (s := "T".toList) (by decide +kernel)
  exact ⟨_, _, _, none,
    .object (.member none withKey space space .yes none
      (.member space more none space list none
        (.member space name none none (.text team) none
          (.lastMember space ifKey none none .null none)))),
    none, by decide +kernel⟩

theorem parse_object_sample :
    ∃ o, parse sampleText = .ok o ∧ Acceptable sampleMembers ∧
      ∀ base : RuleSet, (base.apply o).value (.flag .withBlock) = .bool true ∧
        (base.apply o).value .name = .text "T" ∧
        (base.apply o).value (.flag .conditional) = base.value (.flag .conditional) := by
  obtain ⟨accepted, effect, -⟩ := parse_object sample_holds
  have evaluated : (parse sampleText).toOption.isSome = true := by decide +kernel
  obtain ⟨o, parsed⟩ : ∃ o, parse sampleText = .ok o := by
    cases parsed : parse sampleText with
    | error e => simp [parsed] at evaluated
    | ok o => exact ⟨o, rfl⟩
  have single : ∀ v, Gives sampleMembers (.flag .conditional) v → v = .null := by
    rintro v ⟨key, known, member⟩
    simp only [sampleMembers, List.mem_cons, Prod.mk.injEq, List.not_mem_nil, or_false] at member
    rcases member with ⟨rfl, -⟩ | ⟨rfl, -⟩ | ⟨rfl, -⟩ | ⟨-, null⟩
    · exact absurd known (by decide +kernel)
    · exact absurd known (by decide +kernel)
    · exact absurd known (by decide +kernel)
    · exact null
  refine ⟨o, parsed, accepted.mp ⟨o, parsed⟩, fun base => ⟨?_, ?_, ?_⟩⟩
  · have given : Gives sampleMembers (.flag .withBlock) (.bool true) :=
      ⟨"count-with", by decide +kernel, by simp [sampleMembers]⟩
    exact (effect o parsed base _).1 _ given Tree.noConfusion
  · have given : Gives sampleMembers .name (.text "T") :=
      ⟨"name", by decide +kernel, by simp [sampleMembers]⟩
    exact (effect o parsed base _).1 _ given Tree.noConfusion
  · exact (effect o parsed base (.flag .conditional)).2 single

end RuleOverride

end BranchCount
