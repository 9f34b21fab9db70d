import BranchCount.Json.Basic
import BranchCount.Text.Bytes
import BranchCount.Text.Quoted

/-!
Why a text cannot be read as a value of a given shape, and where.
-/
namespace BranchCount.Json

inductive Seen where
  | null
  | bool (b : Bool)
  | num (n : Number)
  | str (s : String)
  | sequence
  | map
deriving Inhabited

def Seen.describe : Seen → String
  | .null => "null"
  | .bool b => "boolean `" ++ (if b then "true" else "false") ++ "`"
  | .num (.integer n) => "integer `" ++ toString n ++ "`"
  | .num (.float x) => "floating point `" ++ Decimal.diagnostic x ++ "`"
  | .str s => "string " ++ Text.quoted s
  | .sequence => "sequence"
  | .map => "map"

inductive Cause where
  | endInValue
  | endInObject
  | endInList
  | endInString
  | expectedValue
  | expectedWord
  | expectedObjectCommaOrEnd
  | expectedListCommaOrEnd
  | expectedColon
  | keyMustBeString
  | trailingComma
  | trailingCharacters
  | invalidNumber
  | numberOutOfRange
  | invalidEscape
  | brokenSurrogatePair
  | loneSurrogate
  | controlCharacter
  | tooDeep
  | wrongType (seen : Seen) (expected : String)
  | wrongValue (seen : Seen) (expected : String)
  | wrongLength (length : Nat) (expected : String)
  | missingField (name : String)
  | duplicateField (name : String)
  | unknownVariant (name : String) (known : List String)
deriving Inhabited

/-- The three classes of refusal: the text ends too early, it is no JSON, or it is JSON of another
shape. -/
inductive Category where
  | ended
  | malformed
  | mismatched
deriving Repr, DecidableEq, Inhabited

def Cause.category : Cause → Category
  | .endInValue | .endInObject | .endInList | .endInString => .ended
  | .wrongType .. | .wrongValue .. | .wrongLength .. | .missingField _ | .duplicateField _
  | .unknownVariant .. => .mismatched
  | _ => .malformed

def tick (s : String) : String :=
  "`" ++ s ++ "`"

def choices : List String → String
  | [] => "there are no variants"
  | [a] => "expected " ++ tick a
  | [a, b] => "expected " ++ tick a ++ " or " ++ tick b
  | all => "expected one of " ++ ", ".intercalate (all.map tick)

def Cause.message : Cause → String
  | .endInValue => "EOF while parsing a value"
  | .endInObject => "EOF while parsing an object"
  | .endInList => "EOF while parsing a list"
  | .endInString => "EOF while parsing a string"
  | .expectedValue => "expected value"
  | .expectedWord => "expected ident"
  | .expectedObjectCommaOrEnd => "expected `,` or `\x7d`"
  | .expectedListCommaOrEnd => "expected `,` or `]`"
  | .expectedColon => "expected `:`"
  | .keyMustBeString => "key must be a string"
  | .trailingComma => "trailing comma"
  | .trailingCharacters => "trailing characters"
  | .invalidNumber => "invalid number"
  | .numberOutOfRange => "number out of range"
  | .invalidEscape => "invalid escape"
  | .brokenSurrogatePair => "unexpected end of hex escape"
  | .loneSurrogate => "lone leading surrogate in hex escape"
  | .controlCharacter => "control character (\\u0000-\\u001F) found while parsing a string"
  | .tooDeep => "recursion limit exceeded"
  | .wrongType seen expected => "invalid type: " ++ seen.describe ++ ", expected " ++ expected
  | .wrongValue seen expected => "invalid value: " ++ seen.describe ++ ", expected " ++ expected
  | .wrongLength n expected => "invalid length " ++ toString n ++ ", expected " ++ expected
  | .missingField name => "missing field " ++ tick name
  | .duplicateField name => "duplicate field " ++ tick name
  | .unknownVariant name known => "unknown variant " ++ tick name ++ ", " ++ choices known

/-- A refusal at a place: `ahead` bytes into what was left of the text. -/
structure Fault where
  cause : Cause
  rest : List Char
  ahead : Nat := 0
deriving Inhabited

/-- A refusal at a place that a reader can look up: line from 1, and the number of bytes of that
line up to the place. -/
structure Refusal where
  cause : Cause
  line : Nat
  column : Nat
deriving Inhabited

def Refusal.message (r : Refusal) : String :=
  r.cause.message ++ " at line " ++ toString r.line ++ " column " ++ toString r.column

def lineColumn (bytes : List UInt8) : Nat × Nat :=
  bytes.foldl
    (fun (place : Nat × Nat) (b : UInt8) =>
      if b = 10 then (place.1 + 1, 0) else (place.1, place.2 + 1))
    (1, 0)

def Fault.locate (text : List Char) (fault : Fault) : Refusal :=
  let total := Text.byteCount text
  let offset := min total (total - Text.byteCount fault.rest + fault.ahead)
  let (line, column) := lineColumn ((String.ofList text).toUTF8.toList.take offset)
  ⟨fault.cause, line, column⟩

/-- Refuses at the place where `rest` starts. -/
def fail {α : Type} (cause : Cause) (rest : List Char) : Except Fault α :=
  .error ⟨cause, rest, 0⟩

/-- Refuses because of the byte at which `rest` starts. -/
def failAt {α : Type} (cause : Cause) (rest : List Char) : Except Fault α :=
  .error ⟨cause, rest, 1⟩

end BranchCount.Json
