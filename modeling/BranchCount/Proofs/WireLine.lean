import Mathlib.Data.List.Basic
import BranchCount.Proofs.JsonText
import BranchCount.Proofs.JsonUnambiguous
import BranchCount.Proofs.TextBytes
import BranchCount.Proofs.Writers

/-!
The report for editors is one line and says all there is to say about a result: it ends in the only
line feed that it has, and no two results are written alike.
-/
namespace BranchCount

open Json (Tree Written Blank Holds Natural)

/-- The whole text of the report for editors. -/
def wireText (result : AnalysisResult) : String :=
  result.toJson.render ++ "\n"

/- Results are made of strings, flags and natural numbers. -/

theorem Span.members_natural (s : Span) : ∀ m ∈ s.members, m.2.Natural := by
  simp only [Span.members, List.forall_mem_cons]
  exact ⟨.nat _, .nat _, .nat _, .nat _, by simp⟩

theorem Contribution.toJson_natural (c : Contribution) : c.toJson.Natural := by
  refine .obj ?_
  simp only [List.forall_mem_cons]
  exact ⟨.str _, .nat _, .nat _, .str _, by simp⟩

theorem FunctionRecord.toJson_natural (f : FunctionRecord) : f.toJson.Natural := by
  refine .obj ?_
  simp only [List.forall_mem_append, List.forall_mem_cons]
  refine ⟨⟨⟨.str _, by simp⟩, f.span.members_natural⟩, .bool _, .nat _, .arr ?_, by simp⟩
  simp only [List.forall_mem_map]
  exact fun c _ => c.toJson_natural

theorem Failure.members_natural (f : Failure) : ∀ m ∈ f.members, m.2.Natural := by
  simp only [Failure.members, List.forall_mem_append, List.forall_mem_cons]
  refine ⟨⟨.str _, .str _, by simp⟩, ?_⟩
  cases f.line with
  | none => simp
  | some n => simpa using Natural.nat n

theorem AnalysisResult.toJson_natural (result : AnalysisResult) : result.toJson.Natural := by
  cases result with
  | success file =>
    refine .obj ?_
    simp only [List.forall_mem_cons]
    refine ⟨.bool _, .arr ?_, .nat _, .str _, by simp⟩
    simp only [List.forall_mem_map]
    exact fun f _ => f.toJson_natural
  | failure f =>
    refine .obj ?_
    simp only [List.forall_mem_append, List.forall_mem_cons]
    exact ⟨⟨⟨.bool _, by simp⟩, f.members_natural⟩, .arr (by simp), by simp⟩

/- Different data are different values. -/

theorem Kind.known_lookup (k : Kind) : Kind.known.lookup k.name = some k := by
  cases k <;> decide

theorem Kind.name_injective : Function.Injective Kind.name := by
  intro k l same
  have found := k.known_lookup
  rw [same, l.known_lookup] at found
  exact (Option.some.inj found).symm

theorem ErrorType.name_injective : Function.Injective ErrorType.name := by
  intro s t same
  cases s <;> cases t <;> first | rfl | exact absurd same (by decide)

theorem toDigits_injective : Function.Injective (Nat.toDigits 10) := by
  intro m n same
  rw [← Nat.ofDigitChars_ten_toDigits (n := m), same, Nat.ofDigitChars_ten_toDigits]

theorem Contribution.tree_injective : Function.Injective (Json.tree ∘ Contribution.toJson) := by
  intro c d same
  obtain ⟨kind, line, amount, description⟩ := c
  obtain ⟨kind', line', amount', description'⟩ := d
  simpa [Contribution.toJson, Kind.toJson, Kind.name_injective.eq_iff,
    toDigits_injective.eq_iff] using same

theorem FunctionRecord.tree_injective : Function.Injective (Json.tree ∘ FunctionRecord.toJson) := by
  intro f g same
  obtain ⟨name, ⟨line, col, endLine, endCol⟩, isAsync, complexity, contributions⟩ := f
  obtain ⟨name', ⟨line', col', endLine', endCol'⟩, isAsync', complexity', contributions'⟩ := g
  simpa [FunctionRecord.toJson, Span.members, toDigits_injective.eq_iff,
    Contribution.tree_injective.list_map.eq_iff, and_assoc] using same

/-- Failures with and without a line have different numbers of members. -/
theorem Failure.tree_injective :
    Function.Injective fun f : Failure => f.members.map fun m => (m.1, m.2.tree) := by
  intro f g same
  obtain ⟨error, errorType, line⟩ := f
  obtain ⟨error', errorType', line'⟩ := g
  cases line with
  | none =>
    cases line' with
    | none => simpa [Failure.members, ErrorType.toJson, ErrorType.name_injective.eq_iff] using same
    | some n' => simp [Failure.members] at same
  | some n =>
    cases line' with
    | none => simp [Failure.members] at same
    | some n' =>
      simpa [Failure.members, ErrorType.toJson, ErrorType.name_injective.eq_iff,
        toDigits_injective.eq_iff] using same

theorem AnalysisResult.tree_injective : Function.Injective (Json.tree ∘ AnalysisResult.toJson) := by
  intro r r' same
  cases r with
  | success file =>
    obtain ⟨functions, configUsed⟩ := file
    cases r' with
    | success file' =>
      obtain ⟨functions', configUsed'⟩ := file'
      have parts : functions = functions' ∧ functions.length = functions'.length ∧
          configUsed = configUsed' := by
        simpa [AnalysisResult.toJson, toDigits_injective.eq_iff,
          FunctionRecord.tree_injective.list_map.eq_iff] using same
      rw [parts.1, parts.2.2]
    | failure f => simp [AnalysisResult.toJson] at same
  | failure f =>
    cases r' with
    | success file => simp [AnalysisResult.toJson] at same
    | failure g =>
      have members : (f.members.map fun m => (m.1, m.2.tree)) =
          g.members.map fun m => (m.1, m.2.tree) := by
        simpa [AnalysisResult.toJson] using same
      rw [Failure.tree_injective members]

/- The line. -/

theorem join_wire (result : AnalysisResult) :
    String.join (result.toJson.pieces ++ ["\n"]) = wireText result := by
  simp [wireText, Json.render, String.join_append, String.join_cons]

theorem write_wire (result : AnalysisResult) :
    ({} : Sink).write (Report.wire result) = .ok (wireText result) := by
  rw [← join_wire]
  exact (Report.wire_delivers result).write_unlimited {}

theorem wireText_toList (result : AnalysisResult) :
    (wireText result).toList = result.toJson.render.toList ++ ['\n'] := by
  simp [wireText]

theorem wireText_holds (result : AnalysisResult) : Holds (wireText result) result.toJson.tree := by
  have written := result.toJson_natural.written
  refine ⟨[], result.toJson.render.toList, ['\n'], Json.blank_nil, written, by simp [Blank], ?_⟩
  rw [wireText_toList, List.nil_append]

theorem wireText_framed (result : AnalysisResult) :
    ∃ body, (wireText result).toUTF8.toList = body ++ [10] ∧ ∀ b ∈ body, 32 ≤ b.toNat := by
  refine ⟨result.toJson.render.toList.flatMap String.utf8EncodeChar, ?_, ?_⟩
  · rw [toUTF8_toList, wireText_toList, List.flatMap_append]
    rfl
  · intro b member
    obtain ⟨c, there, byte⟩ := List.mem_flatMap.mp member
    exact utf8EncodeChar_visible (result.toJson_natural.visible c there) b byte

theorem wireText_injective : Function.Injective wireText := by
  intro r r' same
  have holds := wireText_holds r
  rw [same] at holds
  exact AnalysisResult.tree_injective (holds.unique (wireText_holds r'))

/-- What the object of a line says about the result as a whole. -/
structure Announces (members : List (String × Tree)) (records : List Tree)
    (result : AnalysisResult) : Prop where
  line : ∀ v, ("line", v) ∈ members ↔
    ∃ f n, result = .failure f ∧ f.line = some n ∧ v = .number (Nat.toDigits 10 n)
  functions : ∀ v, ("functions", v) ∈ members ↔ v = .list records
  objects : ∀ v ∈ records, ∃ fields, v = .object fields
  length : records.length = result.functions.length
  total : ∀ v, ("total_functions", v) ∈ members ↔
    result.isSuccess = true ∧ v = .number (Nat.toDigits 10 records.length)

theorem AnalysisResult.tree_announces (result : AnalysisResult) :
    ∃ members records, result.toJson.tree = .object members ∧ Announces members records result := by
  cases result with
  | success file =>
    refine ⟨_, file.functions.map (Json.tree ∘ FunctionRecord.toJson), Json.tree_obj _, ?_⟩
    constructor <;> simp [FunctionRecord.toJson, AnalysisResult.functions, AnalysisResult.isSuccess]
  | failure f =>
    refine ⟨_, [], Json.tree_obj _, ?_⟩
    obtain ⟨error, errorType, line⟩ := f
    cases line with
    | none => constructor <;> simp [Failure.members, functions, isSuccess]
    | some n => constructor <;> simp [Failure.members, functions, isSuccess]

theorem wireText_object (result : AnalysisResult) :
    ∃ members records, (∀ v, Holds (wireText result) v ↔ v = .object members) ∧
      Announces members records result := by
  obtain ⟨members, records, shown, announces⟩ := result.tree_announces
  have holds := wireText_holds result
  rw [shown] at holds
  refine ⟨members, records, fun v => ⟨fun other => other.unique holds, ?_⟩, announces⟩
  rintro rfl
  exact holds

/-- A result is written as one line, from which it can be told what the result was. The line holds
one object and nothing else. -/
theorem wireText_unambiguous :
    (∀ r, ({} : Sink).write (Report.wire r) = .ok (wireText r)) ∧
    (∀ r, ∃ body, (wireText r).toUTF8.toList = body ++ [10] ∧ ∀ b ∈ body, 0x20 ≤ b.toNat) ∧
    (∀ r r', r ≠ r' → wireText r ≠ wireText r') ∧
    ∀ r, ∃ members records, (∀ v, Holds (wireText r) v ↔ v = .object members) ∧
      Announces members records r :=
  ⟨write_wire, wireText_framed,
    fun _ _ differ => wireText_injective.ne differ, wireText_object⟩

/-- Line breaks and quotes in a message, and a line that only one of two failures has. -/
theorem wireText_unambiguous_message :
    let message := "a\n\"b\"\x01"
    let here : AnalysisResult := .failure ⟨message, .unknown, some 1⟩
    let nowhere : AnalysisResult := .failure ⟨message, .unknown, none⟩
    wireText here =
      "\x7b\"success\":false,\"error\":\"a\\n\\\"b\\\"\\u0001\",\"error_type\":\"unknown\"," ++
        "\"line\":1,\"functions\":[]\x7d\n" ∧
    wireText here ≠ wireText nowhere := by
  intro message here nowhere
  have differ : here ≠ nowhere := by decide
  exact ⟨by decide +kernel, wireText_unambiguous.2.2.1 here nowhere differ⟩

end BranchCount
