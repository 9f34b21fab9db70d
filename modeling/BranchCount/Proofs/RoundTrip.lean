import Mathlib.Data.List.Forall2
import BranchCount.Codec.Record
import BranchCount.Codec.Rules
import BranchCount.Proofs.JsonReading
import BranchCount.Proofs.WireLine

/-!
What is written as JSON is read back. Records of functions, rule sets and overrides are what their
compact texts say, whatever strings are in them; so a value that was decoded from any text is
decoded again from its own.
-/
namespace BranchCount

open Json (Tree Decoder Reads Yields Shape Width)

/-- The numbers are within the widths of the data: 64 bits for places, 32 for amounts. -/
structure Span.Fits (s : Span) : Prop where
  line : s.line < Nat.pow 2 64
  col : s.col < Nat.pow 2 64
  endLine : s.endLine < Nat.pow 2 64
  endCol : s.endCol < Nat.pow 2 64

structure Contribution.Fits (c : Contribution) : Prop where
  line : c.line < Nat.pow 2 64
  amount : c.amount < Nat.pow 2 32

structure FunctionRecord.Fits (f : FunctionRecord) : Prop where
  span : f.span.Fits
  complexity : f.complexity < Nat.pow 2 32
  contributions : ∀ c ∈ f.contributions, c.Fits

/- Records. -/

theorem Contribution.reads {c : Contribution} (fits : c.Fits) :
    Reads shape.decode c.toJson.tree c := by
  have kind : Reads Kind.decoder (.text c.kind.name) c.kind :=
    Json.reads_variant c.kind.known_lookup
  have line : Reads (.count .size) _ c.line := Json.reads_count fits.line
  have amount : Reads (.count .word) _ c.amount := Json.reads_count fits.amount
  have description := Json.reads_text "a string" c.description
  have course : shape.Course shape.start
      [("type", .text c.kind.name), ("line", .number (Nat.toDigits 10 c.line)),
        ("amount", .number (Nat.toDigits 10 c.amount)), ("description", .text c.description)]
      (some ⟨c.kind, c.line, c.amount, c.description⟩) := by
    refine .taken (Shape.steps_field rfl rfl (kind.bind fun _ => rfl)) ?_
    refine .taken (Shape.steps_field rfl rfl (line.bind fun _ => rfl)) ?_
    refine .taken (Shape.steps_field rfl rfl (amount.bind fun _ => rfl)) ?_
    refine .taken (Shape.steps_field rfl rfl (description.bind fun _ => rfl)) ?_
    exact .done
  simpa [toJson, Kind.toJson] using Shape.reads_object course rfl

theorem FunctionRecord.reads_other {n : Nat} (bound : n < Nat.pow 2 64) (p : PartialRecord)
    (key : String) :
    Reads (shape.other p key) (.number (Nat.toDigits 10 n))
      { p with others := p.others ++ [(key, .num (.integer n))] } := by
  intro b t rest before written stops
  cases written
  simp [shape, Json.value_number bound _ _ before stops]

theorem PartialSpan.take_members {s : Span} {line col endLine endCol : Number}
    (hLine : Width.size.check line = .ok s.line) (hCol : Width.size.check col = .ok s.col)
    (hEndLine : Width.size.check endLine = .ok s.endLine)
    (hEndCol : Width.size.check endCol = .ok s.endCol) :
    [("line", Json.Seen.num line), ("col", .num col), ("end_line", .num endLine),
      ("end_col", .num endCol)].foldlM (fun span (key, seen) => PartialSpan.take span key seen) {} =
        .ok ⟨s.line, s.col, s.endLine, s.endCol⟩ := by
  simp only [List.foldlM_cons, List.foldlM_nil]
  refine Json.bind_eq_ok.mpr ⟨⟨s.line, none, none, none⟩, congrArg (Except.map _) hLine, ?_⟩
  refine Json.bind_eq_ok.mpr ⟨⟨s.line, s.col, none, none⟩, congrArg (Except.map _) hCol, ?_⟩
  refine Json.bind_eq_ok.mpr
    ⟨⟨s.line, s.col, s.endLine, none⟩, congrArg (Except.map _) hEndLine, ?_⟩
  refine Json.bind_eq_ok.mpr
    ⟨⟨s.line, s.col, s.endLine, s.endCol⟩, congrArg (Except.map _) hEndCol, rfl⟩

theorem FunctionRecord.reads {f : FunctionRecord} (fits : f.Fits) :
    Reads shape.decode f.toJson.tree f := by
  have name := Json.reads_text "a string" f.name
  have isAsync := Json.reads_bool f.isAsync
  have complexity : Reads (.count .word) _ f.complexity := Json.reads_count fits.complexity
  have each : List.Forall₂ (Reads Contribution.shape.decode)
      (f.contributions.map (Json.tree ∘ Contribution.toJson)) f.contributions := by
    rw [List.forall₂_map_left_iff, List.forall₂_same]
    exact fun c member => Contribution.reads (fits.contributions c member)
  have details := Json.reads_list each
  let others : List (String × Json.Seen) :=
    [("line", .num (.integer f.span.line)), ("col", .num (.integer f.span.col)),
      ("end_line", .num (.integer f.span.endLine)), ("end_col", .num (.integer f.span.endCol))]
  have course : shape.Course shape.start
      [("name", .text f.name), ("line", .number (Nat.toDigits 10 f.span.line)),
        ("col", .number (Nat.toDigits 10 f.span.col)),
        ("end_line", .number (Nat.toDigits 10 f.span.endLine)),
        ("end_col", .number (Nat.toDigits 10 f.span.endCol)), ("is_async", .bool f.isAsync),
        ("complexity", .number (Nat.toDigits 10 f.complexity)),
        ("details", .list (f.contributions.map (Json.tree ∘ Contribution.toJson)))]
      (some ⟨f.name, f.isAsync, f.complexity, f.contributions, others⟩) := by
    refine .taken (Shape.steps_field rfl rfl (name.bind fun _ => rfl)) ?_
    refine .taken (Shape.steps_other rfl (reads_other fits.span.line _ _)) ?_
    refine .taken (Shape.steps_other rfl (reads_other fits.span.col _ _)) ?_
    refine .taken (Shape.steps_other rfl (reads_other fits.span.endLine _ _)) ?_
    refine .taken (Shape.steps_other rfl (reads_other fits.span.endCol _ _)) ?_
    refine .taken (Shape.steps_field rfl rfl (isAsync.bind fun _ => rfl)) ?_
    refine .taken (Shape.steps_field rfl rfl (complexity.bind fun _ => rfl)) ?_
    refine .taken (Shape.steps_field rfl rfl (details.bind fun _ => rfl)) ?_
    exact .done
  have built : shape.build ⟨f.name, f.isAsync, f.complexity, f.contributions, others⟩ = .ok f := by
    refine Json.bind_eq_ok.mpr ⟨f.name, rfl, ?_⟩
    refine Json.bind_eq_ok.mpr ⟨f.isAsync, rfl, ?_⟩
    refine Json.bind_eq_ok.mpr ⟨f.complexity, rfl, ?_⟩
    refine Json.bind_eq_ok.mpr ⟨f.contributions, rfl, ?_⟩
    have taken := PartialSpan.take_members (s := f.span) (Json.check_fits fits.span.line)
      (Json.check_fits fits.span.col) (Json.check_fits fits.span.endLine)
      (Json.check_fits fits.span.endCol)
    exact Json.bind_eq_ok.mpr ⟨_, taken, rfl⟩
  simpa [toJson, Span.members] using Shape.reads_object course built

/- Rule sets and overrides. -/

namespace PartialRules

variable {text flag α : Type} {shape : Shape (PartialRules text flag) α}
  {dashed : Bool} {text' : Decoder text} {flag' : Decoder flag}

/-- The members that give what has been read. -/
def members (p : PartialRules text flag) (textTree : text → Tree) (flagTree : flag → Tree) :
    List (String × Tree) :=
  (p.name.toList.map fun v => ("name", textTree v)) ++
    ((p.description.toList.map fun v => ("description", textTree v)) ++
      Flag.all.filterMap fun f => (p.counts f).map fun v => (f.key, flagTree v))

theorem steps_name (fields : shape.fields = PartialRules.fields dashed text' flag')
    {p : PartialRules text flag} (vacant : p.name = none) {v : Tree} {given : text}
    (reads : Reads text' v given) :
    shape.Steps p ("name", v) (some { p with name := some given }) := by
  have found : shape.field? "name" = (PartialRules.fields dashed text' flag')[0]? := by
    rw [Shape.field?, fields]
    rfl
  refine Shape.steps_field found ?_ (reads.bind fun _ => rfl)
  simp [vacant]

theorem steps_description (fields : shape.fields = PartialRules.fields dashed text' flag')
    {p : PartialRules text flag} (vacant : p.description = none) {v : Tree} {given : text}
    (reads : Reads text' v given) :
    shape.Steps p ("description", v) (some { p with description := some given }) := by
  have found : shape.field? "description" = (PartialRules.fields dashed text' flag')[1]? := by
    rw [Shape.field?, fields]
    rfl
  refine Shape.steps_field found ?_ (reads.bind fun _ => rfl)
  simp [vacant]

theorem steps_flag (fields : shape.fields = PartialRules.fields dashed text' flag')
    {p : PartialRules text flag} {f : Flag} (vacant : p.counts f = none) {v : Tree} {given : flag}
    (reads : Reads flag' v given) : shape.Steps p (f.key, v) (some (p.setFlag f given)) := by
  have found : shape.field? f.key = some
      { name := f.key
        aliases := if dashed then [f.dashedKey] else []
        isSet := fun p => (p.counts f).isSome
        read := fun p s => do
          let read ← flag' s
          return (p.setFlag f read.1, read.2) } := by
    rw [Shape.field?, fields]
    cases f <;> cases dashed <;> rfl
  refine Shape.steps_field found ?_ (reads.bind fun _ => rfl)
  simp [vacant]

/-- The flags that are still to come are the ones that have no value yet. -/
theorem course_flags (fields : shape.fields = PartialRules.fields dashed text' flag')
    {flagTree : flag → Tree} (reads : ∀ v, Reads flag' (flagTree v) v)
    (counts : Flag → Option flag) (flags : List Flag) (distinct : flags.Nodup)
    (p : PartialRules text flag)
    (ahead : ∀ f, p.counts f = if f ∈ flags then none else counts f) :
    shape.Course p (flags.filterMap fun f => (counts f).map fun v => (f.key, flagTree v))
      (some { p with counts }) := by
  induction flags generalizing p with
  | nil =>
    have same : p.counts = counts := funext fun f => by simpa using ahead f
    rw [← same]
    exact .done
  | cons f flags ih =>
    obtain ⟨fresh, distinct⟩ := List.nodup_cons.mp distinct
    cases given : counts f with
    | none =>
      simp only [List.filterMap_cons, given, Option.map_none]
      refine ih distinct p fun g => ?_
      by_cases same : g = f
      · simp [ahead, same, fresh, given]
      · simp [ahead, same]
    | some v =>
      have vacant : p.counts f = none := by simp [ahead]
      simp only [List.filterMap_cons, given, Option.map_some]
      refine .taken (steps_flag fields vacant (reads v)) ?_
      refine ih distinct (p.setFlag f v) fun g => ?_
      by_cases same : g = f
      · simp [setFlag, same, fresh, given]
      · simp [setFlag, ahead, same]

/-- What has been read can be read from the members that give it. -/
theorem course_members (fields : shape.fields = PartialRules.fields dashed text' flag')
    (start : shape.start = {}) {textTree : text → Tree} {flagTree : flag → Tree}
    (readsText : ∀ v, Reads text' (textTree v) v) (readsFlag : ∀ v, Reads flag' (flagTree v) v)
    (p : PartialRules text flag) :
    shape.Course shape.start (p.members textTree flagTree) (some p) := by
  have flags (name description : Option text) :
      shape.Course { name, description }
        (Flag.all.filterMap fun f => (p.counts f).map fun v => (f.key, flagTree v))
        (some { name, description, counts := p.counts }) :=
    course_flags fields readsFlag p.counts Flag.all (by decide) _ fun f => by cases f <;> rfl
  rw [start]
  obtain ⟨name, description, counts⟩ := p
  cases name with
  | none =>
    cases description with
    | none => exact flags none none
    | some d => exact .taken (steps_description fields rfl (readsText d)) (flags none d)
  | some n =>
    cases description with
    | none => exact .taken (steps_name fields rfl (readsText n)) (flags n none)
    | some d =>
      exact .taken (steps_name fields rfl (readsText n))
        (.taken (steps_description fields rfl (readsText d)) (flags n d))

end PartialRules

theorem RuleSet.reads (rules : RuleSet) : Reads shape.decode rules.toJson.tree rules := by
  let p : PartialRules String Bool :=
    ⟨rules.name, rules.description, fun f => some (rules.counts f)⟩
  have course : shape.Course shape.start (p.members .text .bool) (some p) :=
    PartialRules.course_members rfl rfl (Json.reads_text "a string") Json.reads_bool p
  have built : shape.build p = .ok rules := rfl
  have members : rules.toJson.tree = .object (p.members .text .bool) := by
    simp [toJson, PartialRules.members, p, Flag.all]
  rw [members]
  exact Shape.reads_object course built

theorem RuleOverride.textMember_tree (key : String) (given : Option String) :
    (textMember key given).map (fun m => (m.1, m.2.tree)) =
      (given.map some).toList.map fun v => (key, v.elim .null .text) := by
  cases given <;> rfl

theorem RuleOverride.reads (o : RuleOverride) : Reads shape.decode o.toJson.tree o := by
  let p : PartialRules (Option String) (Option Bool) :=
    ⟨o.name.map some, o.description.map some, fun f => (o.counts f).map some⟩
  have course : shape.Course shape.start
      (p.members (·.elim .null .text) (·.elim .null .bool)) (some p) :=
    PartialRules.course_members rfl rfl
      (Json.reads_optional (Json.reads_text "a string") (by simp [Tree.Starts]))
      (Json.reads_optional Json.reads_bool (by simp [Tree.Starts])) p
  have join {β : Type} (given : Option β) : (given.map some).join = given := by
    cases given <;> rfl
  have built : shape.build p = .ok o := by
    simp [shape, p, join]
  have members : o.toJson.tree =
      .object (p.members (·.elim .null .text) (·.elim .null .bool)) := by
    simp [toJson, PartialRules.members, p, textMember_tree, List.map_filterMap, Function.comp_def]
  rw [members]
  exact Shape.reads_object course built

/- Decoded numbers fit, whatever the text was. -/

/-- A number that has been read is below the bound. -/
def Below (bound : Nat) (given : Option Nat) : Prop :=
  ∀ n, given = some n → n < bound

theorem below_none (bound : Nat) : Below bound none := by
  intro n given
  cases given

theorem below_some {bound n : Nat} (fits : n < bound) : Below bound (some n) := by
  intro m given
  cases given
  exact fits

structure PartialContribution.Fits (p : PartialContribution) : Prop where
  line : Below (Nat.pow 2 64) p.line
  amount : Below (Nat.pow 2 32) p.amount

theorem PartialContribution.Fits.build {p : PartialContribution} {c : Contribution} (fits : p.Fits)
    (built : p.build = .ok c) : c.Fits := by
  obtain ⟨kind, -, built⟩ := Json.bind_eq_ok.mp built
  obtain ⟨line, hLine, built⟩ := Json.bind_eq_ok.mp built
  obtain ⟨amount, hAmount, built⟩ := Json.bind_eq_ok.mp built
  obtain ⟨description, -, built⟩ := Json.bind_eq_ok.mp built
  cases built
  exact ⟨fits.line line (Json.need_eq_ok hLine), fits.amount amount (Json.need_eq_ok hAmount)⟩

theorem Contribution.decode_fits : Yields shape.decode Fits := by
  have start : PartialContribution.Fits shape.start := ⟨below_none _, below_none _⟩
  refine Shape.decode_yields start ?fields ?other fun p c fits built => fits.build built
  case fields =>
    simp only [shape, List.forall_mem_cons]
    refine ⟨fun p fits => ?_, fun p fits => ?_, fun p fits => ?_, fun p fits => ?_, by simp⟩
    · refine (Json.yields_any _).bind fun kind rest q rest' _ read => ?_
      cases read
      exact ⟨fits.line, fits.amount⟩
    · refine (Json.count_yields .size).bind fun n rest q rest' bound read => ?_
      cases read
      exact ⟨below_some bound, fits.amount⟩
    · refine (Json.count_yields .word).bind fun n rest q rest' bound read => ?_
      cases read
      exact ⟨fits.line, below_some bound⟩
    · refine (Json.yields_any _).bind fun description rest q rest' _ read => ?_
      cases read
      exact ⟨fits.line, fits.amount⟩
  case other =>
    intro p key fits s rest q read
    obtain ⟨rest', -, same⟩ := Json.bind_eq_ok.mp read
    cases same
    exact fits

structure PartialSpan.Fits (p : PartialSpan) : Prop where
  line : Below (Nat.pow 2 64) p.line
  col : Below (Nat.pow 2 64) p.col
  endLine : Below (Nat.pow 2 64) p.endLine
  endCol : Below (Nat.pow 2 64) p.endCol

theorem PartialSpan.Fits.build {p : PartialSpan} {s : Span} (fits : p.Fits)
    (built : p.build = .ok s) : s.Fits := by
  obtain ⟨line, hLine, built⟩ := Json.bind_eq_ok.mp built
  obtain ⟨col, hCol, built⟩ := Json.bind_eq_ok.mp built
  obtain ⟨endLine, hEndLine, built⟩ := Json.bind_eq_ok.mp built
  obtain ⟨endCol, hEndCol, built⟩ := Json.bind_eq_ok.mp built
  cases built
  exact ⟨fits.line _ (Json.need_eq_ok hLine), fits.col _ (Json.need_eq_ok hCol),
    fits.endLine _ (Json.need_eq_ok hEndLine), fits.endCol _ (Json.need_eq_ok hEndCol)⟩

/-- A number is put in an empty place, if it fits. -/
theorem PartialSpan.put_fits {old : Option Nat} {seen : Json.Seen} {key : String}
    {set : Nat → PartialSpan} {q : PartialSpan}
    (put : (match old, seen with
      | some _, _ => .error (.duplicateField key)
      | none, .num n => (Width.size.check n).map set
      | none, seen => .error (.wrongType seen Width.size.name) : Except Json.Cause PartialSpan) =
        .ok q)
    (keeps : ∀ n < Nat.pow 2 64, (set n).Fits) : q.Fits := by
  split at put
  · cases put
  · rename_i n
    cases checked : Width.size.check n with
    | error cause =>
      rw [checked] at put
      cases put
    | ok m =>
      rw [checked] at put
      cases put
      exact keeps m (Json.check_bound checked)
  · cases put

theorem PartialSpan.Fits.take {p q : PartialSpan} (fits : p.Fits) {key : String} {seen : Json.Seen}
    (taken : p.take key seen = .ok q) : q.Fits := by
  simp only [PartialSpan.take] at taken
  split at taken
  · exact put_fits taken fun n bound => ⟨below_some bound, fits.col, fits.endLine, fits.endCol⟩
  · exact put_fits taken fun n bound => ⟨fits.line, below_some bound, fits.endLine, fits.endCol⟩
  · exact put_fits taken fun n bound => ⟨fits.line, fits.col, below_some bound, fits.endCol⟩
  · exact put_fits taken fun n bound => ⟨fits.line, fits.col, fits.endLine, below_some bound⟩
  · cases taken
    exact fits

theorem PartialSpan.Fits.run {p q : PartialSpan} (fits : p.Fits)
    {members : List (String × Json.Seen)}
    (taken : members.foldlM (fun span (key, seen) => PartialSpan.take span key seen) p = .ok q) :
    q.Fits := by
  induction members generalizing p with
  | nil =>
    cases taken
    exact fits
  | cons m members ih =>
    rw [List.foldlM_cons] at taken
    obtain ⟨next, first, taken⟩ := Json.bind_eq_ok.mp taken
    exact ih (fits.take first) taken

structure PartialRecord.Fits (p : PartialRecord) : Prop where
  complexity : Below (Nat.pow 2 32) p.complexity
  contributions : ∀ cs, p.contributions = some cs → ∀ c ∈ cs, c.Fits

theorem PartialRecord.Fits.build {p : PartialRecord} {f : FunctionRecord} (fits : p.Fits)
    (built : p.build = .ok f) : f.Fits := by
  obtain ⟨name, -, built⟩ := Json.bind_eq_ok.mp built
  obtain ⟨isAsync, -, built⟩ := Json.bind_eq_ok.mp built
  obtain ⟨complexity, hComplexity, built⟩ := Json.bind_eq_ok.mp built
  obtain ⟨contributions, hContributions, built⟩ := Json.bind_eq_ok.mp built
  obtain ⟨p', taken, built⟩ := Json.bind_eq_ok.mp built
  obtain ⟨span, hSpan, built⟩ := Json.bind_eq_ok.mp built
  cases built
  have start : PartialSpan.Fits {} := ⟨below_none _, below_none _, below_none _, below_none _⟩
  exact ⟨(start.run taken).build hSpan, fits.complexity _ (Json.need_eq_ok hComplexity),
    fits.contributions _ (Json.need_eq_ok hContributions)⟩

theorem FunctionRecord.decode_fits : Yields shape.decode Fits := by
  have start : PartialRecord.Fits shape.start := ⟨below_none _, fun _ given => by cases given⟩
  refine Shape.decode_yields start ?fields ?other fun p f fits built => fits.build built
  case fields =>
    simp only [shape, List.forall_mem_cons]
    refine ⟨fun p fits => ?_, fun p fits => ?_, fun p fits => ?_, fun p fits => ?_, by simp⟩
    · refine (Json.yields_any _).bind fun name rest q rest' _ read => ?_
      cases read
      exact ⟨fits.complexity, fits.contributions⟩
    · refine (Json.yields_any _).bind fun isAsync rest q rest' _ read => ?_
      cases read
      exact ⟨fits.complexity, fits.contributions⟩
    · refine (Json.count_yields .word).bind fun n rest q rest' bound read => ?_
      cases read
      exact ⟨below_some bound, fits.contributions⟩
    · refine (Json.list_yields Contribution.decode_fits).bind fun cs rest q rest' each read => ?_
      cases read
      refine ⟨fits.complexity, fun cs' given => ?_⟩
      cases given
      exact each
  case other =>
    intro p key fits
    refine (Json.yields_any _).bind fun seen rest q rest' _ read => ?_
    cases read
    exact ⟨fits.complexity, fits.contributions⟩

/- The round trip. -/

/-- A value that was decoded from any text is decoded again from its own, and is then written as it
was. -/
def Settles {α : Type} (decoder : Decoder α) (write : α → Json) : Prop :=
  ∀ text a, Json.decode decoder text = .ok a →
    Json.decode decoder (write a).render = .ok a ∧
    (Json.decode decoder (write a).render).map (fun b => (write b).render) = .ok (write a).render

theorem settles {α : Type} {decoder : Decoder α} {write : α → Json} {P : α → Prop}
    (yields : Yields decoder P)
    (back : ∀ a, P a → Json.decode decoder (write a).render = .ok a) : Settles decoder write := by
  intro text a decoded
  have again := back a (Json.decode_yields yields decoded)
  refine ⟨again, ?_⟩
  rw [again]
  rfl

theorem RuleSet.toJson_natural (rules : RuleSet) : rules.toJson.Natural := by
  refine .obj ?_
  simp only [List.forall_mem_append, List.forall_mem_cons, List.forall_mem_map]
  exact ⟨⟨.str _, .str _, by simp⟩, fun f _ => .bool _⟩

theorem RuleOverride.toJson_natural (o : RuleOverride) : o.toJson.Natural := by
  have text (key : String) (given : Option String) : ∀ m ∈ textMember key given, m.2.Natural := by
    cases given with
    | none => simp [textMember]
    | some s => simpa [textMember] using Json.Natural.str s
  refine .obj ?_
  simp only [List.forall_mem_append]
  refine ⟨⟨text _ _, text _ _⟩, fun m member => ?_⟩
  obtain ⟨f, -, given⟩ := List.mem_filterMap.mp member
  obtain ⟨b, -, rfl⟩ := Option.map_eq_some_iff.mp given
  exact .bool b

/-- What is written is read back, and reading and writing once more changes nothing. -/
theorem json_roundTrip :
    (∀ f : FunctionRecord, f.Fits →
      Json.decode FunctionRecord.shape.decode f.toJson.render = .ok f) ∧
    (∀ rules : RuleSet, Json.decode RuleSet.shape.decode rules.toJson.render = .ok rules) ∧
    (∀ o : RuleOverride, RuleOverride.parse o.toJson.render = .ok o) ∧
    Settles FunctionRecord.shape.decode FunctionRecord.toJson ∧
    Settles RuleSet.shape.decode RuleSet.toJson ∧
    Settles RuleOverride.shape.decode RuleOverride.toJson := by
  have record (f : FunctionRecord) (fits : f.Fits) :=
    Json.decode_render f.toJson_natural (FunctionRecord.reads fits)
  have rules (r : RuleSet) := Json.decode_render r.toJson_natural r.reads
  have override (o : RuleOverride) := Json.decode_render o.toJson_natural o.reads
  exact ⟨record, rules, override, settles FunctionRecord.decode_fits record,
    settles (Json.yields_any _) fun r _ => rules r, settles (Json.yields_any _) fun o _ => override o⟩

/-- Quotes, control characters and an emoji in the strings, and numbers at their bounds. -/
theorem json_roundTrip_bounds :
    let c : Contribution := ⟨.boolOp, Nat.pow 2 64 - 1, Nat.pow 2 32 - 1, "\x00\"\\\n\u007f"⟩
    let f : FunctionRecord := ⟨"é\t😀", ⟨0, 1, Nat.pow 2 64 - 1, 10⟩, true, Nat.pow 2 32 - 1, [c, c]⟩
    f.Fits ∧ Json.decode FunctionRecord.shape.decode f.toJson.render = .ok f := by
  intro c f
  have contribution : c.Fits := ⟨by decide, by decide⟩
  have fits : f.Fits :=
    ⟨⟨by decide, by decide, by decide, by decide⟩, by decide, by simp [f, contribution]⟩
  exact ⟨fits, json_roundTrip.1 f fits⟩

end BranchCount
