import BranchCount.Codec.Record

/-!
Function records out of JSON values that have been read already.

Members are taken in the order of their names, so that is also the order in which defects show.
-/
namespace BranchCount

open Json (Cause Seen Width)

namespace Json

def seen : Json → Seen
  | .null => .null
  | .bool b => .bool b
  | .num n => .num n
  | .str s => .str s
  | .arr _ => .sequence
  | .obj _ => .map

def toText : Json → Except Cause String
  | .str s => .ok s
  | v => .error (.wrongType v.seen "a string")

def toBool : Json → Except Cause Bool
  | .bool b => .ok b
  | v => .error (.wrongType v.seen "a boolean")

def toCount (w : Width) : Json → Except Cause Nat
  | .num n => w.check n
  | v => .error (.wrongType v.seen w.name)

def sortedMembers (members : List (String × Json)) : List (String × Json) :=
  members.mergeSort fun a b => a.1 ≤ b.1

end Json

namespace Kind

def ofName (name : String) : Except Cause Kind :=
  match known.lookup name with
  | some k => .ok k
  | none => .error (.unknownVariant name (known.map (·.1)))

def ofJson : Json → Except Cause Kind
  | .str name => ofName name
  | .obj [(name, v)] => do
    let k ← ofName name
    match v with
    | .null => return k
    | v => .error (.wrongType v.seen "unit")
  | .obj _ => .error (.wrongValue .map "map with a single key")
  | v => .error (.wrongType v.seen "string or map")

end Kind

def PartialContribution.take (p : PartialContribution) (key : String) (v : Json) :
    Except Cause PartialContribution :=
  match key with
  | "type" => do return { p with kind := some (← Kind.ofJson v) }
  | "line" => do return { p with line := some (← v.toCount .size) }
  | "amount" => do return { p with amount := some (← v.toCount .word) }
  | "description" => do return { p with description := some (← v.toText) }
  | _ => .ok p

namespace Contribution

/-- Reads the items of an array for the fields with the given names. -/
def ofItems : List String → PartialContribution → Nat → List Json → Except Cause Contribution
  | [], p, _, [] => p.build
  | [], _, count, others => .error (.wrongLength (count + others.length) "fewer elements in array")
  | _ :: _, _, count, [] => .error (.wrongLength count shape.lengthMessage)
  | name :: names, p, count, v :: rest => do ofItems names (← p.take name v) (count + 1) rest

def ofJson : Json → Except Cause Contribution
  | .obj members => do
    let p ← (Json.sortedMembers members).foldlM (fun p (key, v) => p.take key v)
      ({} : PartialContribution)
    p.build
  | .arr items => ofItems (shape.fields.map (·.name)) {} 0 items
  | v => .error (.wrongType v.seen shape.title)

end Contribution

/-- Takes a member if it belongs to a record, and sets it aside otherwise. -/
def PartialRecord.take (p : PartialRecord) (key : String) (v : Json) :
    Except Cause PartialRecord :=
  match key with
  | "name" => do return { p with name := some (← v.toText) }
  | "is_async" => do return { p with isAsync := some (← v.toBool) }
  | "complexity" => do return { p with complexity := some (← v.toCount .word) }
  | "details" =>
    match v with
    | .arr items => do return { p with contributions := some (← items.mapM Contribution.ofJson) }
    | v => .error (.wrongType v.seen "a sequence")
  | _ => .ok { p with others := p.others ++ [(key, v.seen)] }

def FunctionRecord.ofJson : Json → Except Cause FunctionRecord
  | .obj members => do
    let p ← (Json.sortedMembers members).foldlM (fun p (key, v) => p.take key v)
      ({} : PartialRecord)
    p.build
  | v => .error (.wrongType v.seen FunctionRecord.shape.title)

end BranchCount
