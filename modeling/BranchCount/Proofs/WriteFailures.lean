import BranchCount.Proofs.Failures

/-!
Sinks with little room. No writer goes on after a refusal, and each flushes once, at its end. So a
sink takes a report up to the first piece that does not fit, and whether the writer fails, and how,
depends on the number of bytes of the report and on the flush alone; it makes no difference into
which pieces the report is cut. The commands fail exactly when their writer does, and never because
of what they report on.
-/
namespace BranchCount

/-- What a writer answers about a report of `size` bytes, to a sink with room for `n`: all is well,
or the sink is full, whatever the flush would do, or the flush fails. -/
structure Answers {α : Type} (n : Nat) (flushFails : Bool) (size : Nat)
    (outcome : Except WriteError α) : Prop where
  ok : (∃ a, outcome = .ok a) ↔ size ≤ n ∧ flushFails = false
  full : outcome = .error .full ↔ n < size
  flush : outcome = .error .flushFailed ↔ size ≤ n ∧ flushFails = true

section Answers

variable {α β : Type} {n size : Nat}

theorem answers_full (flushFails : Bool) (beyond : n < size) :
    Answers n flushFails size (.error .full : Except WriteError α) := by
  constructor <;> simp [beyond, Nat.not_le.mpr beyond]

theorem answers_fitting (fits : size ≤ n) (a : α) (flushFails : Bool) :
    Answers n flushFails size (if flushFails then .error .flushFailed else .ok a) := by
  cases flushFails <;> constructor <;> simp [fits, Nat.not_lt.mpr fits]

theorem Answers.map {flushFails : Bool} {outcome : Except WriteError α}
    (answers : Answers n flushFails size outcome) (f : α → β) :
    Answers n flushFails size (outcome.map f) := by
  obtain ⟨ok, full, flush⟩ := answers
  cases outcome <;> exact ⟨by simpa [Except.map] using ok, by simpa [Except.map] using full,
    by simpa [Except.map] using flush⟩

end Answers

namespace Sink

/-- What a sink with room for `n` bytes was asked to do last, after it took some pieces of a text:
to take one more, which does not fit, or to flush when it had the whole text. -/
inductive Ends (n : Nat) (flushFails : Bool) (text : String) (taken : List String) : Event → Prop
  | refused (piece : String)
      (beyond : n < (String.join taken).utf8ByteSize + piece.utf8ByteSize) :
      Ends n flushFails text taken (.refused piece)
  | flushed (whole : String.join taken = text) : Ends n flushFails text taken (.flushed !flushFails)

/-- What a sink with room for `n` bytes makes of a report that has a certain text elsewhere. What it
takes is a first part of the text, and after a refusal it is not asked for anything. -/
structure Delivered (n : Nat) (sink : Sink) (text : String) (report : Output Unit) : Prop where
  answers : Answers n sink.flushFails text.utf8ByteSize (sink.write report)
  accepted : (sink.run report {}).2.text.toUTF8.toList <+: text.toUTF8.toList
  ends : ∃ taken last, (sink.run report {}).2.events.toList = taken.map .took ++ [last] ∧
    (sink.run report {}).2.text = String.join taken ∧ (String.join taken).utf8ByteSize ≤ n ∧
    Ends n sink.flushFails text taken last

theorem prefix_toUTF8 (front rest : String) :
    front.toUTF8.toList <+: (front ++ rest).toUTF8.toList := by
  rw [toUTF8_toList, toUTF8_toList, String.toList_append, List.flatMap_append]
  exact List.prefix_append _ _

theorem Delivered.of_run {n : Nat} {sink : Sink} {text : String} {report : Output Unit}
    {answer : Except WriteError Unit} {taken : List String} {last : Event}
    (run : sink.run report {} = (answer, (Transcript.takeAll {} taken).note last))
    (answers : Answers n sink.flushFails text.utf8ByteSize answer)
    (starts : ∃ rest, text = String.join taken ++ rest)
    (fits : (String.join taken).utf8ByteSize ≤ n) (ends : Ends n sink.flushFails text taken last) :
    Delivered n sink text report := by
  have held : ((Transcript.takeAll {} taken).note last).text = String.join taken :=
    Transcript.text_of_pieces taken
  constructor
  · rw [write, run]
    exact answers.map _
  · obtain ⟨rest, rfl⟩ := starts
    rw [run, held]
    exact prefix_toUTF8 _ _
  · rw [run]
    exact ⟨taken, last, Transcript.events_of_pieces taken last, held, fits, ends⟩

theorem delivered {report : Output Unit} {texts : List String} (delivers : report.Delivers texts)
    {sink : Sink} {n : Nat} (limited : sink.room = some n) :
    Delivered n sink (String.join texts) report := by
  have cut := sink.join_cut 0 texts
  have start : sink.Within {} := fun _ _ => Nat.zero_le _
  have run : sink.run report {} = sink.run (do
      forM (sink.cut 0 texts) Output.write
      Output.flush) {} := by
    rw [delivers, run_bind, run_prints, run_bind]
    rfl
  generalize sink.cut 0 texts = pieces at cut run
  rw [run_bind] at run
  rw [← cut]
  -- either the flush comes behind all pieces, or a piece does not fit and nothing comes behind it
  rcases sink.run_writes pieces {} with
    ⟨printed, within⟩ | ⟨taken, piece, rest, split, within, full, stopped⟩
  · have fits := within start n limited
    rw [Transcript.text_of_pieces] at fits
    rw [printed] at run
    exact .of_run (run.trans (run_flush sink _)) (answers_fitting fits () sink.flushFails)
      ⟨"", String.append_empty.symm⟩ fits (.flushed rfl)
  · have fits := within start n limited
    have beyond : n < (Transcript.takeAll {} taken).text.utf8ByteSize + piece.utf8ByteSize := by
      simpa [hasRoom, limited] using full
    rw [Transcript.text_of_pieces] at fits beyond
    rw [stopped] at run
    have whole : String.join pieces = String.join taken ++ (piece ++ String.join rest) := by
      rw [split, String.join_append, String.join_cons]
    have larger : n < (String.join pieces).utf8ByteSize := by
      rw [whole, String.utf8ByteSize_append, String.utf8ByteSize_append]
      omega
    exact .of_run run (answers_full sink.flushFails larger) ⟨_, whole⟩ fits (.refused piece beyond)

/-- Every sink with unlimited room gets the same text, in whatever pieces, and a sink with room for
`n` bytes gets of it what fits. -/
def Reports (n : Nat) (flushFails : Bool) (report : Output Unit) : Prop :=
  ∃ text, ∀ division : Division, ({ division } : Sink).write report = .ok text ∧
    Delivered n ⟨some n, flushFails, division⟩ text report

theorem reports {report : Output Unit} {texts : List String} (delivers : report.Delivers texts)
    (n : Nat) (flushFails : Bool) : Reports n flushFails report :=
  ⟨String.join texts, fun division => ⟨delivers.write_unlimited division, delivered delivers rfl⟩⟩

-- The third piece does not fit, and there is no flush to fail then.
example :
    (run ⟨some 3, true, {}⟩ (forM ["ab", "", "cd", "e"] Output.print) {}).2.events =
      #[.took "ab", .took "", .refused "cd"] := by
  decide

-- A program that drops the error goes on behind it.
example :
    (run ⟨some 3, false, {}⟩ (do
      try Output.print "abcd" catch _ => pure ()
      Output.print "ef") {}).2.events = #[.refused "abcd", .took "ef"] := by
  decide

end Sink

/-- Each form of a report is what some writer delivers. -/
theorem ReportForm.write_delivers (form : ReportForm) (style : Style) (path : String)
    (result : AnalysisResult) : ∃ texts, (form.write style path result).Delivers texts := by
  cases form with
  | wire => exact ⟨_, Report.wire_delivers result⟩
  | detailed => exact ⟨_, Report.detailed_delivers style path result⟩

namespace FileSystem

theorem reportAnalysis_value (fs : FileSystem) (parse : ModuleParser) (path : String)
    (details : Bool) (choice : PresetChoice) (style : Style) (sink : Sink) :
    let result := (fs.analyzePath parse path choice).value
    (fs.reportAnalysis parse path details choice style sink).value =
      (sink.write ((ReportForm.forResult details result).write style path result)).map
        fun text => (result, text) := by
  simp only [reportAnalysis, analysisReport, Logged.bind_value, Logged.pure_value]

theorem comparisonReport_delivers (fs : FileSystem) (parse : ModuleParser) (path : String)
    (style : Style) : ∃ texts, (fs.comparisonReport parse path style).value.Delivers texts := by
  rw [comparisonReport, Logged.bind_value]
  cases (fs.comparePresets parse path).value with
  | ok comparison => exact ⟨_, Report.sideBySide_delivers style comparison⟩
  | error failure => exact ⟨_, Report.wire_delivers (.failure failure)⟩

end FileSystem

/-- Every report goes into a sink with room for `n` bytes as far as it fits, and its writer answers
accordingly. The commands answer as their writers do, whether or not the file can be analyzed. -/
theorem write_failures_reported (n : Nat) (flushFails : Bool) :
    (∀ result, Sink.Reports n flushFails (Report.wire result)) ∧
    (∀ style path result, Sink.Reports n flushFails (Report.detailed style path result)) ∧
    (∀ style comparison, Sink.Reports n flushFails (Report.sideBySide style comparison)) ∧
    (∀ (fs : FileSystem) parse path details choice style, ∃ text,
      (fs.reportAnalysis parse path details choice style {}).value =
        .ok ((fs.analyzePath parse path choice).value, text) ∧
      ∀ division, Answers n flushFails text.utf8ByteSize
        (fs.reportAnalysis parse path details choice style ⟨some n, flushFails, division⟩).value) ∧
    ∀ (fs : FileSystem) parse path style, ∃ text,
      (fs.reportComparison parse path style {}).value = .ok text ∧
      ∀ division, Answers n flushFails text.utf8ByteSize
        (fs.reportComparison parse path style ⟨some n, flushFails, division⟩).value := by
  refine ⟨?wire, ?detailed, ?sideBySide, ?analysis, ?comparison⟩
  case wire => exact fun result => Sink.reports (Report.wire_delivers result) n flushFails
  case detailed =>
    exact fun style path result =>
      Sink.reports (Report.detailed_delivers style path result) n flushFails
  case sideBySide =>
    exact fun style comparison =>
      Sink.reports (Report.sideBySide_delivers style comparison) n flushFails
  case analysis =>
    intro fs parse path details choice style
    obtain ⟨texts, delivers⟩ := ReportForm.write_delivers
      (.forResult details (fs.analyzePath parse path choice).value) style path
      (fs.analyzePath parse path choice).value
    obtain ⟨text, taken⟩ := Sink.reports delivers n flushFails
    refine ⟨text, ?_, fun division => ?_⟩
    · rw [FileSystem.reportAnalysis_value, (taken {}).1]
      rfl
    · rw [FileSystem.reportAnalysis_value]
      exact (taken division).2.answers.map _
  case comparison =>
    intro fs parse path style
    obtain ⟨texts, delivers⟩ := fs.comparisonReport_delivers parse path style
    obtain ⟨text, taken⟩ := Sink.reports delivers n flushFails
    exact ⟨text, (taken {}).1, fun division => (taken division).2.answers⟩

end BranchCount
