import BranchCount.Report.SideBySide
import BranchCount.Report.Wire

/-!
What the writers write. Every writer is a program with loops and early ends, and as a program it is
the same as one that prints certain texts and then flushes. So what a sink makes of a list of texts
is what it makes of each writer. A sink takes the pieces of the texts one after the other, up to the
first that there is no room for.
-/
namespace BranchCount

namespace Transcript

/-- The transcript after some more pieces. -/
def takeAll (t : Transcript) (pieces : List String) : Transcript :=
  pieces.foldl take t

theorem takeAll_text (t : Transcript) (pieces : List String) :
    (t.takeAll pieces).text = t.text ++ String.join pieces := by
  induction pieces generalizing t with
  | nil => simp [takeAll]
  | cons piece rest ih =>
    have later := ih (t.take piece)
    rw [String.join_cons, ← String.append_assoc]
    exact later

theorem takeAll_events (t : Transcript) (pieces : List String) :
    (t.takeAll pieces).events.toList = t.events.toList ++ pieces.map .took := by
  induction pieces generalizing t with
  | nil => simp [takeAll]
  | cons piece rest ih =>
    have first : (t.take piece).events.toList = t.events.toList ++ [.took piece] := by
      simp [take, note]
    have later := ih (t.take piece)
    rw [first, List.append_assoc] at later
    exact later

theorem text_of_pieces (pieces : List String) : (takeAll {} pieces).text = String.join pieces := by
  rw [takeAll_text]
  exact String.empty_append

theorem events_of_pieces (pieces : List String) (last : Event) :
    ((takeAll {} pieces).note last).events.toList = pieces.map .took ++ [last] := by
  simp [note, takeAll_events]

end Transcript

namespace Sink

variable {α β : Type}

theorem run_bind (sink : Sink) (program : Output α) (next : α → Output β) (t : Transcript) :
    sink.run (program >>= next) t =
      match sink.run program t with
      | (.ok a, later) => sink.run (next a) later
      | (.error e, later) => (.error e, later) := by
  simp only [run, ReaderT.run_bind, ExceptT.run_bind, StateT.run_bind, Id.run_bind]
  obtain ⟨answer, later⟩ := ((program.run sink).run.run t).run
  cases answer <;> rfl

theorem run_write (sink : Sink) (piece : String) (t : Transcript) :
    sink.run (Output.write piece) t =
      if sink.hasRoom t.text.utf8ByteSize piece then (.ok (), t.take piece)
      else (.error .full, t.note (.refused piece)) := by
  have reads : sink.run (Output.write piece) t =
      sink.run (if sink.hasRoom t.text.utf8ByteSize piece then modify (·.take piece)
        else do modify (·.note (.refused piece)); throw .full) t := rfl
  rw [reads]
  split <;> rfl

theorem run_flush (sink : Sink) (t : Transcript) :
    sink.run Output.flush t =
      (if sink.flushFails then .error .flushFailed else .ok (),
        t.note (.flushed !sink.flushFails)) := by
  obtain ⟨room, flushFails, division⟩ := sink
  cases flushFails <;> rfl

/-- The pieces of some texts, with `used` bytes before the first of them. -/
def cut (sink : Sink) : Nat → List String → List String
  | _, [] => []
  | used, text :: rest =>
    sink.division.pieces used text ++ sink.cut (used + text.utf8ByteSize) rest

theorem join_cut (sink : Sink) (used : Nat) (texts : List String) :
    String.join (sink.cut used texts) = String.join texts := by
  induction texts generalizing used with
  | nil => rfl
  | cons text rest ih =>
    rw [cut, String.join_append, sink.division.join_pieces, ih, String.join_cons]

/-- There is no more in a sink than it has room for. -/
def Within (sink : Sink) (t : Transcript) : Prop :=
  ∀ n, sink.room = some n → t.text.utf8ByteSize ≤ n

theorem within_take {sink : Sink} {t : Transcript} {piece : String}
    (room : sink.hasRoom t.text.utf8ByteSize piece = true) : sink.Within (t.take piece) := by
  intro n limited
  rw [Transcript.take, String.utf8ByteSize_append]
  simpa [hasRoom, limited] using room

/-- Pieces are written one after the other, all of them or up to the first that does not fit. -/
theorem run_writes (sink : Sink) (pieces : List String) (t : Transcript) :
    (sink.run (forM pieces Output.write) t = (.ok (), t.takeAll pieces) ∧
      (sink.Within t → sink.Within (t.takeAll pieces))) ∨
    ∃ taken piece rest, pieces = taken ++ piece :: rest ∧
      (sink.Within t → sink.Within (t.takeAll taken)) ∧
      sink.hasRoom (t.takeAll taken).text.utf8ByteSize piece = false ∧
      sink.run (forM pieces Output.write) t =
        (.error .full, (t.takeAll taken).note (.refused piece)) := by
  induction pieces generalizing t with
  | nil => exact .inl ⟨rfl, id⟩
  | cons piece rest ih =>
    rw [List.forM_cons, run_bind, run_write]
    cases room : sink.hasRoom t.text.utf8ByteSize piece with
    | false => exact .inr ⟨[], piece, rest, rfl, id, room, rfl⟩
    | true =>
      have fits := within_take room
      rcases ih (t.take piece) with ⟨run, within⟩ | ⟨taken, other, later, split, within, ends⟩
      · exact .inl ⟨run, fun _ => within fits⟩
      · exact .inr ⟨piece :: taken, other, later, by rw [split, List.cons_append],
          fun _ => within fits, ends⟩

theorem takeAll_of_written {sink : Sink} {pieces : List String} {t later : Transcript}
    (written : sink.run (forM pieces Output.write) t = (.ok (), later)) :
    later = t.takeAll pieces := by
  rcases sink.run_writes pieces t with ⟨run, -⟩ | ⟨taken, piece, rest, -, -, -, run⟩
  · exact congrArg Prod.snd (written.symm.trans run)
  · cases congrArg Prod.fst (written.symm.trans run)

/-- Texts are printed by writing all their pieces. -/
theorem run_prints (sink : Sink) (texts : List String) (t : Transcript) :
    sink.run (forM texts Output.print) t =
      sink.run (forM (sink.cut t.text.utf8ByteSize texts) Output.write) t := by
  induction texts generalizing t with
  | nil => rfl
  | cons text rest ih =>
    have first : sink.run (Output.print text) t =
        sink.run (forM (sink.division.pieces t.text.utf8ByteSize text) Output.write) t := rfl
    rw [List.forM_cons, run_bind, first, cut, List.forM_append, run_bind]
    rcases written : sink.run (forM _ Output.write) t with ⟨refusal | done, later⟩
    · rfl
    · -- the rest is cut as it is behind this text
      have size : later.text.utf8ByteSize = t.text.utf8ByteSize + text.utf8ByteSize := by
        rw [takeAll_of_written written, Transcript.takeAll_text, sink.division.join_pieces,
          String.utf8ByteSize_append]
      rw [← size]
      exact ih later

theorem run_writes_unlimited {sink : Sink} (unlimited : sink.room = none) (pieces : List String)
    (t : Transcript) : sink.run (forM pieces Output.write) t = (.ok (), t.takeAll pieces) := by
  rcases sink.run_writes pieces t with ⟨run, -⟩ | ⟨taken, piece, rest, -, -, full, -⟩
  · exact run
  · simp [hasRoom, unlimited] at full

theorem run_prints_unlimited (sink : Sink) (unlimited : sink.room = none) (texts : List String) :
    ∃ t, sink.run (forM texts Output.print) {} = (.ok (), t) ∧ t.text = String.join texts := by
  refine ⟨_, (sink.run_prints texts {}).trans (run_writes_unlimited unlimited _ {}), ?_⟩
  rw [Transcript.text_of_pieces, join_cut]

end Sink

namespace Output

theorem forM_line (texts : List String) :
    forM texts line = forM (texts.map (· ++ "\n")) print := by
  rw [List.forM_map]
  rfl

theorem write_lines (lines : List String) :
    ({} : Sink).write (forM lines line) = .ok (String.join (lines.map (· ++ "\n"))) := by
  obtain ⟨t, printed, text⟩ := Sink.run_prints_unlimited {} rfl (lines.map (· ++ "\n"))
  rw [forM_line, Sink.write, printed, ← text]
  rfl

/-- The report is the same program as printing the texts and flushing once at the end. -/
def Delivers (report : Output Unit) (texts : List String) : Prop :=
  report = do
    forM texts print
    flush

theorem Delivers.write_unlimited {report : Output Unit} {texts : List String}
    (delivers : report.Delivers texts) (division : Division) :
    ({ division } : Sink).write report = .ok (String.join texts) := by
  obtain ⟨t, printed, text⟩ := Sink.run_prints_unlimited { division } rfl texts
  rw [delivers, Sink.write, Sink.run_bind, printed, ← text]
  rfl

end Output

namespace Report

open Output

theorem wire_delivers (result : AnalysisResult) :
    (wire result).Delivers (result.toJson.pieces ++ ["\n"]) := by
  simp [Delivers, wire, jsonLine, line]

/- The lines of a report on a file, part by part. -/

def headerLines (style : Style) (path : String) (configUsed : Option String) : List String :=
  ["", Layout.rule detailedWidth, style.header ("Complexity Analysis: " ++ path)] ++
    (configUsed.map ("Method: " ++ ·)).toList ++ [Layout.rule detailedWidth, ""]

theorem detailedHeader_lines (style : Style) (path : String) (configUsed : Option String) :
    detailedHeader style path configUsed = forM (headerLines style path configUsed) line := by
  cases configUsed <;> simp [detailedHeader, headerLines]

def functionLines (style : Style) (f : FunctionRecord) : List String :=
  functionText style f ::
    if f.contributions.isEmpty then []
    else ("  " ++ style.dim "Base complexity: 1") :: f.contributions.map contributionText ++ [""]

theorem detailedFunction_lines (style : Style) (f : FunctionRecord) :
    detailedFunction style f = forM (functionLines style f) line := by
  unfold detailedFunction functionLines
  split <;> simp

def footerLines (style : Style) (file : FileComplexity) : List String :=
  let high := countComplex highThreshold file.functions
  [Layout.rule detailedWidth, "Total functions: " ++ toString file.functions.length] ++
    if file.functions.isEmpty then []
    else
      ("Average complexity: " ++ Decimal.fixed 2 (averageComplexity file.functions)) ::
        if 0 < high then
          [style.emoji "⚠️ " "[WARN]" ++ " " ++
            style.warning ("High complexity functions (>" ++ toString highThreshold ++ "): " ++
              toString high)]
        else []

theorem detailedFooter_lines (style : Style) (file : FileComplexity) :
    detailedFooter style file = forM (footerLines style file) line := by
  unfold detailedFooter footerLines
  by_cases empty : file.functions.isEmpty
  · simp [empty]
  · by_cases some : 0 < countComplex highThreshold file.functions <;> simp [empty, some]

def detailedLines (style : Style) (path : String) : AnalysisResult → List String
  | .success file =>
    headerLines style path (some file.configUsed) ++
      file.functions.flatMap (functionLines style) ++ footerLines style file
  | .failure failure =>
    headerLines style path none ++
      [style.emoji "❌" "[FAIL]" ++ " " ++ style.error ("Error: " ++ failure.error)]

theorem detailedFunctions_lines (style : Style) (functions : List FunctionRecord) :
    forM functions (detailedFunction style) =
      forM (functions.flatMap (functionLines style)) line := by
  induction functions with
  | nil => rfl
  | cons f rest ih =>
    rw [List.forM_cons, detailedFunction_lines, ih, List.flatMap_cons, List.forM_append]

theorem detailed_delivers (style : Style) (path : String) (result : AnalysisResult) :
    (detailed style path result).Delivers ((detailedLines style path result).map (· ++ "\n")) := by
  rw [Delivers, ← forM_line]
  cases result with
  | success file =>
    simp [detailed, detailedLines, detailedHeader_lines, detailedFunctions_lines,
      detailedFooter_lines]
  | failure failure => simp [detailed, detailedLines, detailedHeader_lines]

/- The lines of a report on a comparison. -/

def comparisonLines (style : Style) (c : PresetComparison) : List String :=
  let rule := Layout.rule comparisonWidth
  ["", rule, style.header ("Complexity Comparison: " ++ c.path), rule, "", "Method Comparison:",
    ""] ++
  Preset.all.map presetText ++
  ["", comparisonTable style c.rows, "", rule, "Total functions: " ++ toString c.rows.length,
    "Average complexity (standard): " ++ Decimal.fixed 2 c.average, "",
    "Complexity Distribution:"] ++
  (ranges c.distribution).map (fun (marker, label, count) => rangeText style marker label count) ++
  ["", rule]

theorem sideBySide_delivers (style : Style) (c : PresetComparison) :
    (sideBySide style c).Delivers ((comparisonLines style c).map (· ++ "\n")) := by
  rw [Delivers, ← forM_line]
  simp [sideBySide, comparisonLines]

end Report

end BranchCount
