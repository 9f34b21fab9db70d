import BranchCount.Json.Reader

/-!
Decoding a JSON text into data of a given shape.

Reading and checking are one pass from left to right, so the first defect is the one that is
reported, whether it is one of the text or one of the shape. A record is read from an object, whose
unknown members are skipped, or from an array that lists the fields in their order.
-/
namespace BranchCount.Json

abbrev Decoder (α : Type) := List Char → Except Fault (α × List Char)

/-- Refuses a value of another shape. Scalars are read first, so that they can be named; for an
array or an object the place is in front of it. -/
def mismatch {α : Type} (expected : String) (s : List Char) : Except Fault α :=
  let refuse := fun (seen : Seen) (rest : List Char) => fail (.wrongType seen expected) rest
  match s with
  | [] => failAt .endInValue []
  | 'n' :: rest => do refuse .null (← word ['u', 'l', 'l'] rest)
  | 't' :: rest => do refuse (.bool true) (← word ['r', 'u', 'e'] rest)
  | 'f' :: rest => do refuse (.bool false) (← word ['a', 'l', 's', 'e'] rest)
  | '-' :: rest => do
    let (n, rest) ← number true rest
    refuse (.num n) rest
  | '"' :: rest => do
    let (text, rest) ← stringBody rest
    refuse (.str (String.ofList text)) rest
  | '[' :: _ => refuse .sequence s
  | '\x7b' :: _ => refuse .map s
  | c :: _ =>
    if c.isDigit then do
      let (n, rest) ← number false s
      refuse (.num n) rest
    else
      failAt .expectedValue s

def Decoder.bool : Decoder Bool := fun s =>
  match skipBlank s with
  | 't' :: rest => do return (true, ← word ['r', 'u', 'e'] rest)
  | 'f' :: rest => do return (false, ← word ['a', 'l', 's', 'e'] rest)
  | s => mismatch "a boolean" s

def Decoder.text (expected : String) : Decoder String := fun s =>
  match skipBlank s with
  | '"' :: rest => do
    let (text, rest) ← stringBody rest
    return (String.ofList text, rest)
  | s => mismatch expected s

inductive Width where
  | word
  | size
deriving Repr, DecidableEq, Inhabited

def Width.bound : Width → Nat
  | .word => Nat.pow 2 32
  | .size => Nat.pow 2 64

def Width.name : Width → String
  | .word => "u32"
  | .size => "usize"

def Width.check (w : Width) : Number → Except Cause Nat
  | .integer n =>
    if 0 ≤ n ∧ n < w.bound then .ok n.toNat
    else .error (.wrongValue (.num (.integer n)) w.name)
  | .float x => .error (.wrongType (.num (.float x)) w.name)

def checkedCount (w : Width) (outcome : Except Fault (Number × List Char)) :
    Except Fault (Nat × List Char) := do
  let (n, rest) ← outcome
  match w.check n with
  | .ok n => return (n, rest)
  | .error cause => fail cause rest

def Decoder.count (w : Width) : Decoder Nat := fun s =>
  match skipBlank s with
  | '-' :: rest => checkedCount w (number true rest)
  | c :: rest =>
    if c.isDigit then checkedCount w (number false (c :: rest)) else mismatch w.name (c :: rest)
  | [] => failAt .endInValue []

def Decoder.unit : Decoder Unit := fun s =>
  match skipBlank s with
  | 'n' :: rest => do return ((), ← word ['u', 'l', 'l'] rest)
  | s => mismatch "unit" s

/-- Reads `null` as no value. -/
def Decoder.optional {α : Type} (decode : Decoder α) : Decoder (Option α) := fun s =>
  match skipBlank s with
  | 'n' :: rest => do return (none, ← word ['u', 'l', 'l'] rest)
  | _ => do
    let (a, rest) ← decode s
    return (some a, rest)

def colon (s : List Char) : Except Fault (List Char) :=
  match skipBlank s with
  | ':' :: rest => .ok rest
  | [] => failAt .endInObject []
  | s => failAt .expectedColon s

def Decoder.variantName {α : Type} (known : List (String × α)) : Decoder α := fun s => do
  let (name, rest) ← Decoder.text "variant identifier" s
  match known.lookup name with
  | some a => return (a, rest)
  | none => fail (.unknownVariant name (known.map (·.1))) rest

/-- Reads one of the given values: its name, or an object whose only member has that name and is
`null`. -/
def Decoder.variant {α : Type} (known : List (String × α)) : Decoder α := fun s =>
  match skipBlank s with
  | [] => failAt .endInValue []
  | '"' :: rest => Decoder.variantName known ('"' :: rest)
  | '\x7b' :: rest => do
    let (a, rest) ← Decoder.variantName known rest
    let ((), rest) ← Decoder.unit (← colon rest)
    match skipBlank rest with
    | '\x7d' :: rest => return (a, rest)
    | [] => fail .endInObject []
    | rest => fail .expectedValue rest
  | s => failAt .expectedValue s

/-- Finds the next item of an array; `none` in front of the closing bracket. -/
def nextItem (first : Bool) (s : List Char) : Except Fault (Option (List Char)) :=
  match skipBlank s with
  | [] => failAt .endInList []
  | ']' :: _ => .ok none
  | c :: rest =>
    if first then .ok (some (c :: rest))
    else if c = ',' then
      match skipBlank rest with
      | [] => failAt .endInValue []
      | ']' :: rest => failAt .trailingComma (']' :: rest)
      | rest => .ok (some rest)
    else failAt .expectedListCommaOrEnd (c :: rest)

def closeList (s : List Char) : Except Fault (List Char) :=
  match skipBlank s with
  | ']' :: rest => .ok rest
  | [] => failAt .endInList []
  | ',' :: rest =>
    match skipBlank rest with
    | ']' :: rest => failAt .trailingComma (']' :: rest)
    | rest => failAt .trailingCharacters rest
  | s => failAt .trailingCharacters s

def Decoder.items {α : Type} (decode : Decoder α) : Nat → Bool → Decoder (List α)
  | 0, _, s => failAt .expectedValue s
  | fuel + 1, first, s => do
    match ← nextItem first s with
    | none => return ([], ← closeList s)
    | some s =>
      let (a, rest) ← decode s
      let (others, rest) ← Decoder.items decode fuel false rest
      return (a :: others, rest)

def Decoder.list {α : Type} (decode : Decoder α) : Decoder (List α) := fun s =>
  match skipBlank s with
  | '[' :: rest => Decoder.items decode (rest.length + 1) true rest
  | s => mismatch "a sequence" s

def nextKey (first : Bool) (s : List Char) : Except Fault (Option (String × List Char)) :=
  let key := fun (rest : List Char) => do
    let (text, rest) ← stringBody rest
    return some (String.ofList text, rest)
  match skipBlank s with
  | [] => failAt .endInObject []
  | '\x7d' :: _ => .ok none
  | c :: rest =>
    if first then
      if c = '"' then key rest else failAt .keyMustBeString (c :: rest)
    else if c = ',' then
      match skipBlank rest with
      | [] => failAt .endInValue []
      | '"' :: rest => key rest
      | '\x7d' :: rest => failAt .trailingComma ('\x7d' :: rest)
      | rest => failAt .keyMustBeString rest
    else failAt .expectedObjectCommaOrEnd (c :: rest)

/-- Where a defect of a whole object is reported: behind its closing brace if that comes next. -/
def pastBrace (s : List Char) : List Char :=
  match skipBlank s with
  | '\x7d' :: rest => rest
  | rest => rest

def pastBracket (s : List Char) : List Char :=
  match skipBlank s with
  | ']' :: rest => rest
  | rest => rest

mutual

/-- Any value, seen from outside, nested less than `depth` deep. -/
def value : Nat → Nat → Decoder Seen
  | 0, _, s => failAt .expectedValue s
  | fuel + 1, depth, s =>
    match skipBlank s with
    | [] => failAt .endInValue []
    | 'n' :: rest => do return (.null, ← word ['u', 'l', 'l'] rest)
    | 't' :: rest => do return (.bool true, ← word ['r', 'u', 'e'] rest)
    | 'f' :: rest => do return (.bool false, ← word ['a', 'l', 's', 'e'] rest)
    | '-' :: rest => do
      let (n, rest) ← number true rest
      return (.num n, rest)
    | '"' :: rest => do
      let (text, rest) ← stringBody rest
      return (.str (String.ofList text), rest)
    | '[' :: rest =>
      if depth ≤ 1 then failAt .tooDeep ('[' :: rest)
      else do return (.sequence, ← valueItems fuel (depth - 1) true rest)
    | '\x7b' :: rest =>
      if depth ≤ 1 then failAt .tooDeep ('\x7b' :: rest)
      else do return (.map, ← valueMembers fuel (depth - 1) true rest)
    | c :: rest =>
      if c.isDigit then do
        let (n, rest) ← number false (c :: rest)
        return (.num n, rest)
      else
        failAt .expectedValue (c :: rest)

def valueItems : Nat → Nat → Bool → List Char → Except Fault (List Char)
  | 0, _, _, s => failAt .expectedValue s
  | fuel + 1, depth, first, s => do
    match ← nextItem first s with
    | none => closeList s
    | some s =>
      let (_, rest) ← value fuel depth s
      valueItems fuel depth false rest

def valueMembers : Nat → Nat → Bool → List Char → Except Fault (List Char)
  | 0, _, _, s => failAt .expectedValue s
  | fuel + 1, depth, first, s => do
    match ← nextKey first s with
    | none => return pastBrace s
    | some (_, rest) =>
      let (_, rest) ← value fuel depth (← colon rest)
      valueMembers fuel depth false rest

end

/-- A field of a record of which the fields read so far are kept in a `σ`. -/
structure Member (σ : Type) where
  name : String
  aliases : List String := []
  isSet : σ → Bool
  read : σ → Decoder σ

structure Shape (σ α : Type) where
  title : String
  fields : List (Member σ)
  start : σ
  /-- Whether an array that lists the fields is read too. -/
  positional : Bool := true
  /-- What is done with a member that is no field. -/
  other : σ → String → Decoder σ := fun partly _ s => do return (partly, ← skipValue s)
  build : σ → Except Cause α

def need {α : Type} (name : String) : Option α → Except Cause α
  | some a => .ok a
  | none => .error (.missingField name)

namespace Shape

variable {σ α : Type}

def field? (shape : Shape σ α) (key : String) : Option (Member σ) :=
  shape.fields.find? fun f => f.name = key || f.aliases.contains key

def members (shape : Shape σ α) : Nat → Bool → σ → List Char → Except Fault (σ × List Char)
  | 0, _, _, s => failAt .expectedValue s
  | fuel + 1, first, partly, s => do
    match ← nextKey first s with
    | none => return (partly, s)
    | some (key, rest) =>
      match shape.field? key with
      | some field =>
        if field.isSet partly then fail (.duplicateField field.name) (pastBrace rest)
        else
          let (partly, rest) ← field.read partly (← colon rest)
          shape.members fuel false partly rest
      | none =>
        let (partly, rest) ← shape.other partly key (← colon rest)
        shape.members fuel false partly rest

def objectBody (shape : Shape σ α) (s : List Char) : Except Fault (α × List Char) := do
  let (partly, rest) ← shape.members (s.length + 1) true shape.start s
  match shape.build partly with
  | .ok a => return (a, pastBrace rest)
  | .error cause => fail cause (pastBrace rest)

def lengthMessage (shape : Shape σ α) : String :=
  shape.title ++ " with " ++ toString shape.fields.length ++ " elements"

/-- Reads items for the given fields. An array may end early only if the record needs no more. -/
def itemsFor (shape : Shape σ α) :
    List (Member σ) → Nat → σ → List Char → Except Fault (α × List Char)
  | [], _, partly, s =>
    match shape.build partly with
    | .ok a => do return (a, ← closeList s)
    | .error cause => fail cause (pastBracket s)
  | field :: fields, index, partly, s => do
    match ← nextItem (index = 0) s with
    | none =>
      match shape.build partly with
      | .ok a => return (a, ← closeList s)
      | .error _ => fail (.wrongLength index shape.lengthMessage) (pastBracket s)
    | some s =>
      let (partly, rest) ← field.read partly s
      shape.itemsFor fields (index + 1) partly rest

def decode (shape : Shape σ α) : Decoder α := fun s =>
  match skipBlank s with
  | '\x7b' :: rest => shape.objectBody rest
  | '[' :: rest =>
    if shape.positional then shape.itemsFor shape.fields 0 shape.start rest
    else mismatch shape.title ('[' :: rest)
  | s => mismatch shape.title s

end Shape

def decode {α : Type} (decoder : Decoder α) (text : String) : Except Refusal α :=
  let chars := text.toList
  let outcome : Except Fault α := do
    let (a, rest) ← decoder chars
    match skipBlank rest with
    | [] => return a
    | rest => failAt .trailingCharacters rest
  outcome.mapError (Fault.locate chars)

end BranchCount.Json
