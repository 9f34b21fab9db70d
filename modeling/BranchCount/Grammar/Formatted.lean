import BranchCount.Grammar.Cursor
import BranchCount.Text.Blank
import BranchCount.Text.Bytes
import BranchCount.Text.CharacterNames
import BranchCount.Token.Number

/-!
The inside of string literals.

Escapes are checked, and the replacement fields of formatted strings are found. The text of a
field's expression is put in parentheses and parsed by itself, with offsets that start where the
text stands. Offsets are counted over the value of the literal, in which a line end is one byte.
-/
namespace BranchCount

structure Spot where
  rest : List Char
  offset : Nat
deriving Inhabited

namespace Spot

def next (s : Spot) : Spot :=
  match s.rest with
  | c :: rest => ⟨rest, s.offset + c.utf8Size⟩
  | [] => s

def fail {α : Type} (s : Spot) (problem : Problem) : Except SourceError α :=
  .error ⟨problem, s.offset⟩

def failField {α : Type} (s : Spot) (problem : Problem) : Except SourceError α :=
  s.fail (.inFormatted problem)

end Spot

def hexDigit? (c : Char) : Option Nat :=
  if isDigitOf 16 c then some (digitValue c) else none

/-- Goes past a character given by exactly `digits` hexadecimal digits. -/
def skipHex (start : Spot) : Nat → Nat → Spot → Except SourceError Spot
  | 0, value, s => if value < 0x110000 then .ok s else start.fail .brokenUnicode
  | digits + 1, value, s =>
    match s.rest.head?.bind hexDigit? with
    | some d => skipHex start digits (16 * value + d) s.next
    | none => start.fail .brokenUnicode

def nameLimit : Nat := 88

def skipCharacterName (s : Spot) : Except SourceError Spot :=
  match s.rest with
  | '\x7b' :: rest =>
    let name := rest.takeWhile (· ≠ '\x7d')
    let size := Text.byteCount name
    match rest.drop name.length with
    | [] => .error ⟨.brokenString, s.offset + 1 + size⟩
    | _ :: rest =>
      if nameLimit < size then .error ⟨.brokenUnicode, s.offset + 2 + size⟩
      else if Text.isCharacterName name then .ok ⟨rest, s.offset + 2 + size⟩
      else .error ⟨.brokenUnicode, s.offset + 1⟩
  | _ => s.fail .brokenString

/-- Goes past an escape after its backslash. Bytes have no escapes for characters beyond a byte. -/
def skipEscape (kind : StringKind) (s : Spot) : Except SourceError Spot :=
  match s.rest with
  | [] => s.fail .brokenString
  | c :: _ =>
    let s := s.next
    if c = 'x' then skipHex s 2 0 s
    else if c = 'u' ∧ ¬ kind.isBytes then skipHex s 4 0 s
    else if c = 'U' ∧ ¬ kind.isBytes then skipHex s 8 0 s
    else if c = 'N' ∧ ¬ kind.isBytes then skipCharacterName s
    else if kind.isBytes ∧ 127 < c.toNat then s.fail .bytesNotAscii
    else .ok s

def checkText (kind : StringKind) : Nat → Spot → Except SourceError Unit
  | 0, _ => .ok ()
  | fuel + 1, s =>
    match s.rest with
    | [] => .ok ()
    | c :: _ =>
      if c = '\\' ∧ ¬ kind.isRaw then do checkText kind fuel (← skipEscape kind s.next)
      else if kind.isBytes ∧ 127 < c.toNat then s.next.fail .bytesNotAscii
      else checkText kind fuel s.next

/-- A replacement field as far as it has been read: the text of its expression, in reverse, the
brackets open in it, and what was found behind it. -/
structure FieldText where
  start : Nat
  text : List Char := []
  brackets : List Char := []
  debug : Bool := false
  spec : Option Expr := none
deriving Inhabited

def FieldText.add (f : FieldText) (c : Char) : FieldText :=
  { f with text := c :: f.text }

def FieldText.isEmpty (f : FieldText) : Bool :=
  f.text.all Text.isBlank

def FieldText.close (f : FieldText) (opening closing : Char) (s : Spot) :
    Except SourceError FieldText :=
  match f.brackets with
  | c :: outer =>
    if c = opening then .ok { f.add closing with brackets := outer }
    else s.failField (.mismatchedBracket c closing)
  | [] => s.failField (.unmatchedBracket closing)

/-- Checks the conversion behind an exclamation mark: one of three letters, behind which the field
ends or its format starts. -/
def skipConversion (s : Spot) : Except SourceError Spot :=
  match s.rest with
  | [] => s.failField .fieldNotClosed
  | c :: _ =>
    let s := s.next
    if c = 's' ∨ c = 'a' ∨ c = 'r' then
      match s.rest with
      | '\x7d' :: _ | ':' :: _ => .ok s
      | _ => s.failField .fieldNotClosed
    else
      s.failField .badConversion

abbrev ExprReader := (start : Nat) → List Char → Except SourceError Expr

mutual

/-- The fields of a text, up to its end or, inside a format, up to a closing brace. -/
def fields (read : ExprReader) (raw : Bool) (depth : Nat) :
    Nat → Spot → Except SourceError (List Expr × Spot)
  | 0, s => .ok ([], s)
  | fuel + 1, s =>
    match s.rest with
    | [] => .ok ([], s)
    | '\x7b' :: rest =>
      let s := s.next
      if depth = 0 ∧ rest.head? = some '\x7b' then fields read raw depth fuel s.next
      else if depth = 0 ∧ rest.isEmpty then s.failField .fieldNotClosed
      else do
        let (field, s) ← field read raw depth fuel { start := s.offset } s
        let (others, s) ← fields read raw depth fuel s
        return (field :: others, s)
    | '\x7d' :: rest =>
      if 0 < depth then .ok ([], s)
      else if rest.head? = some '\x7d' then fields read raw depth fuel s.next.next
      else s.next.failField .singleBrace
    | c :: _ =>
      if c = '\\' ∧ ¬ raw then do fields read raw depth fuel (← skipEscape .formatted s.next)
      else fields read raw depth fuel s.next

def field (read : ExprReader) (raw : Bool) (depth : Nat) :
    Nat → FieldText → Spot → Except SourceError (Expr × Spot)
  | 0, _, s => s.failField .fieldNotClosed
  | fuel + 1, f, s =>
    match s.rest with
    | [] => s.failField (if f.isEmpty then .emptyField else .fieldNotClosed)
    | c :: rest =>
      let s := s.next
      let go := field read raw depth fuel
      if (c = '!' ∨ c = '=' ∨ c = '>' ∨ c = '<') ∧ rest.head? = some '=' then
        go ((f.add c).add '=') s.next
      else if c = '!' ∧ f.brackets.isEmpty then
        if f.isEmpty then s.failField .emptyField
        else do go f (← skipConversion s)
      else if c = '=' ∧ f.brackets.isEmpty then
        go { f with debug := true } s
      else if c = ':' ∧ f.brackets.isEmpty then do
        let (parts, after) ← format read raw depth fuel s
        go { f with spec := some (.joined ⟨s.offset, after.offset⟩ parts) } after
      else if c = '(' ∨ c = '\x7b' ∨ c = '[' then
        go { f.add c with brackets := c :: f.brackets } s
      else if c = ')' then do go (← f.close '(' c s) s
      else if c = ']' then do go (← f.close '[' c s) s
      else if c = '\x7d' ∧ ¬ f.brackets.isEmpty then do go (← f.close '\x7b' c s) s
      else if c = '\x7d' then
        if f.isEmpty then s.failField .emptyField
        else
          match read f.start f.text.reverse with
          | .ok value => .ok (.formatted ⟨f.start, s.offset⟩ value f.spec, s)
          | .error e => .error ⟨.inFormatted e.problem, f.start⟩
      else if c = '"' ∨ c = '\'' then
        let inside := rest.takeWhile (· ≠ c)
        let size := Text.byteCount inside
        match rest.drop inside.length with
        | [] => .error ⟨.inFormatted .fieldStringNotClosed, s.offset + size⟩
        | _ :: after =>
          go { f with text := c :: (inside.reverse ++ c :: f.text) } ⟨after, s.offset + size + 1⟩
      else if c = ' ' ∧ f.debug then go f s
      else if c = '\\' then s.failField .fieldStringNotClosed
      else if f.debug then s.failField .fieldNotClosed
      else go (f.add c) s

/-- The format of a field, behind its colon, up to the closing brace. Fields may stand in it, but no
formats in those. -/
def format (read : ExprReader) (raw : Bool) (depth : Nat) :
    Nat → Spot → Except SourceError (List Expr × Spot)
  | 0, s => .ok ([], s)
  | fuel + 1, s =>
    match s.rest with
    | [] => .ok ([], s)
    | '\x7d' :: _ => .ok ([], s)
    | '\x7b' :: _ =>
      if 1 ≤ depth then s.failField .fieldsTooDeep
      else do
        let (parts, s) ← fields read raw (depth + 1) fuel s
        let (others, s) ← format read raw depth fuel s
        return (parts ++ others, s)
    | _ :: _ => format read raw depth fuel s.next

end

def literalFields (read : ExprReader) (range : Range) (s : StringLiteral) :
    Except SourceError (List Expr) :=
  let spot : Spot := ⟨s.value, range.start + s.headSize⟩
  let fuel := 3 * s.value.length + 3
  if s.kind.isFormatted then do
    let (parts, _) ← fields read s.kind.isRaw 0 fuel spot
    return parts
  else do
    checkText s.kind fuel spot
    return []

/-- The value of literals that stand side by side. Either all of them are bytes or none. -/
def joinLiterals (read : ExprReader) (range : Range) (literals : List (Range × StringLiteral)) :
    Except SourceError Expr := do
  let bytes := literals.countP fun l => l.2.kind.isBytes
  if 0 < bytes ∧ bytes < literals.length then .error ⟨.mixedBytes, range.start⟩
  let parts ← literals.mapM fun (range, s) => literalFields read range s
  if literals.any fun l => l.2.kind.isFormatted then return .joined range parts.flatten
  else return .constant range

end BranchCount
