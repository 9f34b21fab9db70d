/-!
Where a report goes, and the programs that write it.

A sink may have room for a limited number of bytes. It refuses what would go beyond that, and it may
also refuse to flush. A program learns of a refusal as an error, and it depends on the program
whether it stops there; the sink keeps a transcript of everything it is asked to do. A text can
reach the sink in several pieces.
-/
namespace BranchCount

inductive WriteError where
  | full
  | flushFailed
deriving Repr, DecidableEq, Inhabited

def WriteError.message : WriteError → String
  | .full => "disk full"
  | .flushFailed => "flush failed"

/-- How texts are cut into pieces, each also by the number of bytes that stand before it. -/
structure Division where
  pieces : Nat → String → List String := fun _ text => [text]
  join_pieces : ∀ used text, String.join (pieces used text) = text := by
    intro used text
    simp [String.join]

structure Sink where
  /-- How many bytes there is room for; `none` if there is no limit. -/
  room : Option Nat := none
  flushFails : Bool := false
  division : Division := {}

def Sink.hasRoom (sink : Sink) (used : Nat) (piece : String) : Bool :=
  match sink.room with
  | none => true
  | some room => used + piece.utf8ByteSize ≤ room

inductive Event where
  | took (piece : String)
  | refused (piece : String)
  | flushed (done : Bool)
deriving Repr, DecidableEq, Inhabited

structure Transcript where
  /-- All that the sink has taken. -/
  text : String := ""
  events : Array Event := #[]
deriving Repr, DecidableEq, Inhabited

namespace Transcript

def note (t : Transcript) (e : Event) : Transcript :=
  { t with events := t.events.push e }

def take (t : Transcript) (piece : String) : Transcript :=
  { t.note (.took piece) with text := t.text ++ piece }

end Transcript

abbrev Output := ReaderT Sink (ExceptT WriteError (StateM Transcript))

namespace Output

def write (piece : String) : Output Unit := do
  let sink ← read
  if sink.hasRoom (← get).text.utf8ByteSize piece then
    modify (·.take piece)
  else
    modify (·.note (.refused piece))
    throw .full

def print (text : String) : Output Unit := do
  let division := (← read).division
  forM (division.pieces (← get).text.utf8ByteSize text) write

def line (text : String) : Output Unit :=
  print (text ++ "\n")

def flush : Output Unit := do
  let done := !(← read).flushFails
  modify (·.note (.flushed done))
  unless done do
    throw .flushFailed

end Output

namespace Sink

/-- Runs a program from a transcript on: what it answers, and the transcript after it. -/
def run {α : Type} (sink : Sink) (program : Output α) (t : Transcript) :
    Except WriteError α × Transcript :=
  ((program.run sink).run.run t).run

/-- The whole text of a report, or what its writer answers otherwise. -/
def write (sink : Sink) (report : Output Unit) : Except WriteError String :=
  let (answer, transcript) := sink.run report {}
  answer.map fun _ => transcript.text

end Sink

end BranchCount
