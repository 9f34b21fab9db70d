import BranchCount.Proofs.JsonForms
import BranchCount.Proofs.Overrides

/-!
Which texts are override files. Objects are all that is documented. A record can also be read from a
list of its fields in order, though, so lists of up to thirteen values of the right types are
override files as well.
-/
namespace BranchCount.RuleOverride

open Json (Tree Written Blank Holds HasForm Separates Member)

theorem shape_proper : shape.Proper := by
  refine ⟨?fields, ?other⟩
  case fields =>
    intro field member p
    have text := (Json.consumes_text "a string").optional
    have flag := Json.consumes_bool.optional
    rcases List.mem_cons.mp member with rfl | member
    · exact text.map fun given => { p with name := some given }
    · rcases List.mem_cons.mp member with rfl | member
      · exact text.map fun given => { p with description := some given }
      · obtain ⟨f, -, rfl⟩ := List.mem_map.mp member
        exact flag.map (p.setFlag f)
  case other =>
    intro p key s rest q read
    obtain ⟨rest', skipped, same⟩ := Json.bind_eq_ok.mp read
    cases same
    exact Json.skipValue_sound skipped

/- Lists of values. -/

/-- The values are not more than the fields, and each is of the type of its field. -/
def Positional (fields : List Field) (vs : List Tree) : Prop :=
  vs.length ≤ fields.length ∧ ∀ pair ∈ fields.zip vs, pair.1.Accepts pair.2

theorem positional_nil (fields : List Field) : Positional fields [] := by
  simp [Positional]

theorem positional_cons {field : Field} {fields : List Field} {v : Tree} {vs : List Tree} :
    Positional (field :: fields) (v :: vs) ↔ field.Accepts v ∧ Positional fields vs := by
  simp only [Positional, List.length_cons, Nat.add_le_add_iff_right, List.zip_cons_cons,
    List.forall_mem_cons]
  exact and_left_comm

namespace Partly

/-- Takes values one after the other, each for the next field. -/
def list? : List Field → Partly → List Tree → Option Partly
  | _, p, [] => some p
  | [], _, _ :: _ => none
  | field :: fields, p, v :: vs => (p.put? field v).bind fun q => list? fields q vs

theorem list?_nil (fields : List Field) (p : Partly) : list? fields p [] = some p := by
  cases fields <;> rfl

theorem list?_isSome (fields : List Field) (p : Partly) (vs : List Tree) :
    (list? fields p vs).isSome ↔ Positional fields vs := by
  induction fields generalizing p vs with
  | nil =>
    cases vs with
    | nil => simp [list?, positional_nil]
    | cons v vs => simp [list?, Positional]
  | cons field fields ih =>
    cases vs with
    | nil => simp [list?, positional_nil]
    | cons v vs =>
      rw [list?, positional_cons, ← p.put?_isSome field v]
      cases p.put? field v with
      | none => simp
      | some q => simpa using ih q vs

theorem list?_value {fields : List Field} (once : fields.Nodup) {p q : Partly} {vs : List Tree}
    (open_ : ∀ field ∈ fields, p.value? field = none) (read : list? fields p vs = some q)
    (g : Field) (v : Tree) :
    q.value? g = some v ↔ p.value? g = some v ∨ (g, v) ∈ fields.zip vs := by
  induction fields generalizing p vs with
  | nil =>
    cases vs with
    | nil =>
      cases read
      simp
    | cons w vs => cases read
  | cons field fields ih =>
    cases vs with
    | nil =>
      cases read
      simp
    | cons w vs =>
      obtain ⟨next, put, rest⟩ := Option.bind_eq_some_iff.mp read
      have value := put?_value put
      rw [List.nodup_cons] at once
      have later : ∀ field' ∈ fields, next.value? field' = none := by
        intro field' member
        have other : field' ≠ field := fun same => once.1 (same ▸ member)
        rw [value, if_neg other]
        exact open_ field' (List.mem_cons_of_mem field member)
      rw [ih once.2 later rest, value, List.zip_cons_cons, List.mem_cons, Prod.mk.injEq]
      by_cases same : g = field
      · have free := open_ field List.mem_cons_self
        simp [same, free, eq_comm]
      · simp [same]

end Partly

theorem itemsFor_end (ms : List (Member Partly)) (index : Nat) (p : Partly) {b : List Char}
    (blank : Blank b) (rest : List Char) :
    shape.itemsFor ms index p (b ++ ']' :: rest) = .ok (p.override, rest) := by
  have closed : Json.closeList (b ++ ']' :: rest) = .ok rest := by
    simp [Json.closeList, Json.skipBlank_bracket blank]
  cases ms with
  | nil =>
    rw [Json.Shape.itemsFor, closed]
    rfl
  | cons m ms =>
    rw [Json.Shape.itemsFor, Json.nextItem_end (index = 0) blank rest, closed]
    rfl

section Items

variable {index : Nat} {p : Partly} {l a t s : List Char} {v : Tree}

theorem itemsFor_next {field : Field} {m : Member Partly} (handles : Handles field m)
    (ms : List (Member Partly)) (separates : Separates (index = 0) l) (before : Blank a)
    (written : Written (.value v) t) :
    (shape.itemsFor (m :: ms) index p (l ++ (a ++ (t ++ s)))).toOption =
      (p.put? field v).bind fun q => (shape.itemsFor ms (index + 1) q s).toOption := by
  have read := handles.read p s Json.blank_nil written
  rw [List.nil_append] at read
  rw [Json.Shape.itemsFor, Json.nextItem_text separates before written, Json.ok_bind]
  show (m.read p (t ++ s) >>= _).toOption = _
  rw [Json.toOption_bind, read]
  cases p.put? field v <;> rfl

/-- There may be no item behind the last field. -/
theorem itemsFor_beyond (separates : Separates (index = 0) l) (before : Blank a)
    (written : Written (.value v) t) :
    (shape.itemsFor [] index p (l ++ (a ++ (t ++ s)))).toOption = none := by
  have next := Json.nextItem_text separates before written s
  cases closed : Json.closeList (l ++ (a ++ (t ++ s))) with
  | error fault =>
    rw [Json.Shape.itemsFor, closed]
    rfl
  | ok rest =>
    obtain ⟨b, blank, same⟩ := Json.closeList_sound closed
    rw [same, Json.nextItem_end _ blank rest] at next
    cases next

end Items

theorem itemsFor_written {fields : List Field} {ms : List (Member Partly)}
    (each : List.Forall₂ Handles fields ms) {vs : List Tree} {body : List Char}
    (written : Written (.items vs) body) {index : Nat} {p : Partly} {l : List Char}
    (separates : Separates (index = 0) l) (rest : List Char) :
    (shape.itemsFor ms index p (l ++ (body ++ ']' :: rest))).toOption =
      (Partly.list? fields p vs).map (·.override, rest) := by
  induction each generalizing vs body index p l with
  | nil =>
    cases written with
    | lastItem before value after | item before value after others =>
      simp only [List.append_assoc]
      exact itemsFor_beyond separates before value
  | @cons field m fields ms handles each ih =>
    cases written with
    | @lastItem a t b v before value after =>
      simp only [List.append_assoc]
      rw [itemsFor_next handles ms separates before value, Partly.list?]
      cases p.put? field v with
      | none => rfl
      | some q => simp [itemsFor_end ms (index + 1) q after, Partly.list?_nil]
    | @item a t b more v vs before value after others =>
      have comma : Separates (decide (index + 1 = 0)) (b ++ [',']) := ⟨b, after, rfl⟩
      simp only [List.append_assoc, List.cons_append]
      rw [itemsFor_next handles ms separates before value, Partly.list?]
      cases p.put? field v with
      | none => rfl
      | some q =>
        -- the comma goes with the items behind it
        have tail := ih others comma (p := q)
        rwa [List.append_assoc, List.singleton_append] at tail

/-- Reading a list is taking its values one after the other. -/
theorem parse_list {text : String} {vs : List Tree} (holds : Holds text (.list vs)) :
    (parse text).toOption = (Partly.list? Field.all {} vs).map Partly.override := by
  apply Json.decode_holds holds
  intro a t rest before written
  have opened (s : List Char) :
      shape.decode (a ++ '[' :: s) = shape.itemsFor shape.fields 0 {} s := by
    have visible : Json.skipBlank (a ++ '[' :: s) = '[' :: s := by
      rw [Json.skipBlank_append before, Json.skipBlank_cons rfl]
    simp only [Json.Shape.decode, visible]
    rfl
  cases written with
  | @emptyList b blank =>
    rw [List.cons_append, List.append_assoc, List.singleton_append, opened,
      itemsFor_end _ 0 {} blank rest]
    rfl
  | @list _ body items =>
    rw [List.cons_append, List.append_assoc, List.singleton_append, opened]
    have start : Separates (decide (0 = 0)) [] := rfl
    rw [Option.map_map]
    exact itemsFor_written fields_handle items start rest

theorem parse_list_isOk {text : String} {vs : List Tree} (holds : Holds text (.list vs)) :
    (∃ o, parse text = .ok o) ↔ Positional Field.all vs := by
  rw [← Partly.list?_isSome Field.all {} vs, ← Option.isSome_map (f := Partly.override),
    ← parse_list holds]
  cases parse text <;> simp

theorem parse_list_value {text : String} {vs : List Tree} (holds : Holds text (.list vs))
    {o : RuleOverride} (parsed : parse text = .ok o) (field : Field) (v : Tree) :
    o.value? field = some v ↔ (field, v) ∈ Field.all.zip vs ∧ v ≠ .null := by
  have read := parse_list holds
  rw [parsed] at read
  obtain ⟨p, taken, rfl⟩ := Option.map_eq_some_iff.mp read.symm
  have empty (g : Field) : Partly.value? {} g = none := by cases g <;> rfl
  have once : Field.all.Nodup := by decide
  rw [override_value?, Partly.list?_value once (fun g _ => empty g) taken, empty]
  simp

/-- The texts that are override files: objects, and besides them the lists of values for the first
fields. Those are never objects, and every one of them is accepted and gives its values to the
fields in order. -/
theorem parse_forms (text : String) :
    (∀ o, parse text = .ok o →
      HasForm text .object ∨ ∃ vs, Holds text (.list vs) ∧ Positional Field.all vs) ∧
    (∀ vs, Holds text (.list vs) →
      ¬ HasForm text .object ∧
      ((∃ o, parse text = .ok o) ↔ Positional Field.all vs) ∧
      ∀ o, parse text = .ok o → ∀ field v,
        o.value? field = some v ↔ (field, v) ∈ Field.all.zip vs ∧ v ≠ .null) := by
  constructor
  · intro o parsed
    rcases Json.decode_form shape_proper parsed with object | ⟨vs, holds⟩
    · exact .inl object
    · exact .inr ⟨vs, holds, (parse_list_isOk holds).mp ⟨o, parsed⟩⟩
  · intro vs holds
    exact ⟨holds.not_object, parse_list_isOk holds, fun o parsed => parse_list_value holds parsed⟩

/-- Two places left out and a flag. -/
def sampleList : String :=
  "[null, null, false]"

def sampleValues : List Tree :=
  [.null, .null, .bool false]

theorem sampleList_holds : Holds sampleList (.list sampleValues) := by
  have none : Blank [] := by simp [Blank]
  have space : Blank [' '] := by simp [Blank]
  exact ⟨_, _, _, none,
    .list (.item none .null none (.item space .null none (.lastItem space .no none))),
    none, by decide +kernel⟩

theorem sampleValues_zip : Field.all.zip sampleValues =
    [(.name, .null), (.description, .null), (.flag .conditional, .bool false)] := rfl

theorem sampleValues_positional : Positional Field.all sampleValues := by
  refine ⟨by decide, ?_⟩
  rw [sampleValues_zip]
  simp [Field.Accepts]

theorem parse_forms_sample :
    ∃ o, parse sampleList = .ok o ∧ o.value? (.flag .conditional) = some (.bool false) ∧
      ∀ field, field ≠ .flag .conditional → o.value? field = none := by
  obtain ⟨-, accepted, given⟩ := (parse_forms sampleList).2 _ sampleList_holds
  obtain ⟨o, parsed⟩ := accepted.mpr sampleValues_positional
  have value := given o parsed
  rw [sampleValues_zip] at value
  refine ⟨o, parsed, by simp [value], fun field other => ?_⟩
  apply Option.eq_none_iff_forall_ne_some.mpr
  intro v same
  have member := (value field v).mp same
  simp_all

/-- Not only objects are accepted. -/
theorem parse_not_only_objects :
    ¬ ∀ (text : String) (o : RuleOverride), parse text = .ok o → HasForm text .object := by
  intro only
  obtain ⟨o, parsed⟩ := (parse_list_isOk sampleList_holds).mpr sampleValues_positional
  exact sampleList_holds.not_object (only sampleList o parsed)

end BranchCount.RuleOverride
