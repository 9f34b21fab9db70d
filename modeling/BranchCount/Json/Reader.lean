import BranchCount.Json.Fault

/-!
Reading the parts of a JSON text, from left to right and without looking back.

Strings and numbers are read in two ways: for their value, or only to get past them. The second way
accepts a little more (halves of surrogate pairs) and describes some defects differently, because a
member that nobody asked for is skipped without being understood.
-/
namespace BranchCount.Json

def isBlank (c : Char) : Bool :=
  c = ' ' || c = '\n' || c = '\t' || c = '\r'

def skipBlank (s : List Char) : List Char :=
  s.dropWhile isBlank

def word : List Char → List Char → Except Fault (List Char)
  | [], rest => .ok rest
  | _ :: _, [] => fail .endInValue []
  | expected :: more, c :: rest =>
    if c = expected then word more rest else failAt .expectedWord (c :: rest)

def digits (s : List Char) : List Char × List Char :=
  (s.takeWhile Char.isDigit, s.dropWhile Char.isDigit)

/-! Strings -/

def hexValue? (c : Char) : Option Nat :=
  let n := c.toNat
  if 48 ≤ n ∧ n ≤ 57 then some (n - 48)
  else if 97 ≤ n ∧ n ≤ 102 then some (n - 87)
  else if 65 ≤ n ∧ n ≤ 70 then some (n - 55)
  else none

def hexNumber? (a b c d : Char) : Option Nat := do
  return 4096 * (← hexValue? a) + 256 * (← hexValue? b) + 16 * (← hexValue? c) + (← hexValue? d)

/-- The refusal of something that is not four hexadecimal digits: four bytes are looked at. -/
def badHex {α : Type} (rest : List Char) : Except Fault α :=
  if Text.byteCount rest < 4 then fail .endInString [] else .error ⟨.invalidEscape, rest, 4⟩

def letterEscape? : Char → Option Char
  | '"' => some '"'
  | '\\' => some '\\'
  | '/' => some '/'
  | 'b' => some '\x08'
  | 'f' => some '\x0c'
  | 'n' => some '\n'
  | 'r' => some '\r'
  | 't' => some '\t'
  | _ => none

def isLeading (n : Nat) : Bool :=
  0xD800 ≤ n && n ≤ 0xDBFF

def isTrailing (n : Nat) : Bool :=
  0xDC00 ≤ n && n ≤ 0xDFFF

def pairChar (leading trailing : Nat) : Char :=
  Char.ofNat (0x10000 + (leading - 0xD800) * 0x400 + (trailing - 0xDC00))

def prepend (c : Char) (outcome : Except Fault (List Char × List Char)) :
    Except Fault (List Char × List Char) :=
  outcome.map fun (s, rest) => (c :: s, rest)

def stringBody : List Char → Except Fault (List Char × List Char)
  | [] => fail .endInString []
  | '"' :: rest => .ok ([], rest)
  | '\\' :: 'u' :: a :: b :: c :: d :: rest =>
    match hexNumber? a b c d with
    | none => badHex (a :: b :: c :: d :: rest)
    | some n =>
      if isTrailing n then fail .loneSurrogate rest
      else if isLeading n then
        match rest with
        | '\\' :: 'u' :: a' :: b' :: c' :: d' :: rest' =>
          match hexNumber? a' b' c' d' with
          | none => badHex (a' :: b' :: c' :: d' :: rest')
          | some m =>
            if isTrailing m then prepend (pairChar n m) (stringBody rest')
            else fail .loneSurrogate rest'
        | '\\' :: 'u' :: rest' => badHex rest'
        | '\\' :: c :: rest' => failAt .brokenSurrogatePair (c :: rest')
        | ['\\'] => fail .endInString []
        | c :: rest' => failAt .brokenSurrogatePair (c :: rest')
        | [] => fail .endInString []
      else prepend (Char.ofNat n) (stringBody rest)
  | '\\' :: 'u' :: rest => badHex rest
  | '\\' :: c :: rest =>
    match letterEscape? c with
    | some e => prepend e (stringBody rest)
    | none => failAt .invalidEscape (c :: rest)
  | ['\\'] => fail .endInString []
  | c :: rest =>
    if c.toNat < 32 then fail .controlCharacter rest else prepend c (stringBody rest)

def skipString : List Char → Except Fault (List Char)
  | [] => fail .endInString []
  | '"' :: rest => .ok rest
  | '\\' :: 'u' :: a :: b :: c :: d :: rest =>
    match hexNumber? a b c d with
    | none => badHex (a :: b :: c :: d :: rest)
    | some _ => skipString rest
  | '\\' :: 'u' :: rest => badHex rest
  | '\\' :: c :: rest =>
    match letterEscape? c with
    | some _ => skipString rest
    | none => failAt .invalidEscape (c :: rest)
  | ['\\'] => fail .endInString []
  | c :: rest => if c.toNat < 32 then fail .controlCharacter (c :: rest) else skipString rest

/-! Numbers -/

/-- The digits that can be added to a number of 64 bits without leaving that range, and the
others. -/
def fittingDigits (start : Nat) : List Char → Nat × List Char
  | [] => (start, [])
  | c :: rest =>
    let next := 10 * start + (c.toNat - 48)
    if next < Nat.pow 2 64 then fittingDigits next rest else (start, c :: rest)

/-- Divides by `10 ^ e` in steps that a double can hold. -/
def scaleDown : Nat → Float → Nat → Float
  | 0, f, _ => f
  | fuel + 1, f, e =>
    if e ≤ 308 then f / Float.ofScientific 1 false e
    else if f == 0.0 then f
    else scaleDown fuel (f / 1e308) (e - 308)

/-- The double `significand * 10 ^ exponent`, computed by one multiplication or division of
doubles. -/
def scaled (negative : Bool) (significand : Nat) (exponent : Int) (rest : List Char) :
    Except Fault (Number × List Char) :=
  let f := Float.ofNat significand
  let signed := fun f : Float => (Number.float (if negative then -f else f), rest)
  if 0 ≤ exponent then
    if exponent ≤ 308 then
      let f := f * Float.ofScientific 1 false exponent.toNat
      if f.isInf then fail .numberOutOfRange rest else .ok (signed f)
    else if significand = 0 then .ok (signed f)
    else fail .numberOutOfRange rest
  else
    .ok (signed (scaleDown ((-exponent).toNat + 1) f (-exponent).toNat))

def exponentDigits (e : Nat) : List Char → Option Nat × List Char
  | [] => (some e, [])
  | c :: rest =>
    if c.isDigit then
      let next := 10 * e + (c.toNat - 48)
      if Nat.pow 2 31 ≤ next then (none, rest) else exponentDigits next rest
    else
      (some e, c :: rest)

/-- Reads an exponent after its mark. An exponent that is too large is no number, unless the result
is zero all the same. -/
def exponentPart (negative : Bool) (significand : Nat) (shift : Int) (s : List Char) :
    Except Fault (Number × List Char) :=
  let (down, s) : Bool × List Char :=
    match s with
    | '+' :: rest => (false, rest)
    | '-' :: rest => (true, rest)
    | _ => (false, s)
  match s with
  | [] => fail .endInValue []
  | c :: rest =>
    if c.isDigit then
      match exponentDigits (c.toNat - 48) rest with
      | (some e, rest) =>
        scaled negative significand (if down then shift - e else shift + e) rest
      | (none, rest) =>
        if significand ≠ 0 ∧ ¬ down then fail .numberOutOfRange rest
        else .ok (.float (if negative then -0.0 else 0.0), (digits rest).2)
    else
      failAt .invalidNumber (c :: rest)

def afterFraction (negative : Bool) (significand : Nat) (shift : Int) :
    List Char → Except Fault (Number × List Char)
  | 'e' :: rest | 'E' :: rest => exponentPart negative significand shift rest
  | rest => scaled negative significand shift rest

/-- Reads a fraction after the point. Digits that no longer fit are passed over. -/
def fractionPart (negative : Bool) (significand : Nat) (shift : Int) (s : List Char) :
    Except Fault (Number × List Char) :=
  let (ds, rest) := digits s
  match ds, rest with
  | [], [] => failAt .endInValue []
  | [], rest => failAt .invalidNumber rest
  | ds, rest =>
    let (significand', unread) := fittingDigits significand ds
    afterFraction negative significand' (shift - (ds.length - unread.length)) rest

/-- Goes on behind the digits before the point, of which `shift` did not fit. -/
def afterInteger (negative : Bool) (significand : Nat) (shift : Nat) (s : List Char) :
    Except Fault (Number × List Char) :=
  match s with
  | '.' :: rest => fractionPart negative significand shift rest
  | 'e' :: rest | 'E' :: rest => exponentPart negative significand shift rest
  | rest =>
    if shift ≠ 0 then scaled negative significand shift rest
    else if ¬ negative then .ok (.integer significand, rest)
    else if significand = 0 ∨ Nat.pow 2 63 < significand then
      .ok (.float (-(Float.ofNat significand)), rest)
    else .ok (.integer (-(significand : Int)), rest)

def number (negative : Bool) : List Char → Except Fault (Number × List Char)
  | [] => fail .endInValue []
  | '0' :: rest =>
    match rest with
    | c :: more =>
      if c.isDigit then failAt .invalidNumber (c :: more) else afterInteger negative 0 0 rest
    | [] => afterInteger negative 0 0 []
  | c :: rest =>
    if c.isDigit then
      let (ds, rest) := digits (c :: rest)
      let (significand, unread) := fittingDigits 0 ds
      afterInteger negative significand unread.length rest
    else
      failAt .invalidNumber (c :: rest)

def skipExponent (s : List Char) : Except Fault (List Char) :=
  let s :=
    match s with
    | '+' :: rest | '-' :: rest => rest
    | _ => s
  match s with
  | [] => fail .invalidNumber []
  | c :: rest => if c.isDigit then .ok (digits rest).2 else failAt .invalidNumber (c :: rest)

def skipAfterInteger : List Char → Except Fault (List Char)
  | '.' :: s =>
    let (ds, rest) := digits s
    if ds.isEmpty then failAt .invalidNumber rest
    else
      match rest with
      | 'e' :: more | 'E' :: more => skipExponent more
      | _ => .ok rest
  | 'e' :: rest | 'E' :: rest => skipExponent rest
  | rest => .ok rest

def skipNumber : List Char → Except Fault (List Char)
  | [] => fail .invalidNumber []
  | '0' :: rest =>
    match rest with
    | c :: more => if c.isDigit then failAt .invalidNumber (c :: more) else skipAfterInteger rest
    | [] => .ok []
  | c :: rest =>
    if c.isDigit then skipAfterInteger (digits rest).2 else failAt .invalidNumber (c :: rest)

/-! Values that are skipped -/

inductive Bracket where
  | list
  | object
deriving Repr, DecidableEq, Inhabited

/-- What follows a skipped value, or an opening bracket if `first`: the end of brackets, or a comma
and then another item. Gives the brackets still open and the text of the next item. -/
def skipClosers (first : Bool) :
    List Bracket → List Char → Except Fault (List Bracket × List Char)
  | [], s => .ok ([], s)
  | bracket :: outer, s =>
    match skipBlank s with
    | [] => failAt (if bracket = .list then .endInList else .endInObject) []
    | c :: rest =>
      if c = ',' ∧ ¬ first then .ok (bracket :: outer, rest)
      else if (c = ']' ∧ bracket = .list) ∨ (c = '\x7d' ∧ bracket = .object) then
        skipClosers false outer rest
      else if first then .ok (bracket :: outer, c :: rest)
      else
        failAt (if bracket = .list then .expectedListCommaOrEnd else .expectedObjectCommaOrEnd)
          (c :: rest)

def skipKey (open_ : List Bracket) (s : List Char) : Except Fault (List Char) :=
  match open_ with
  | .object :: _ =>
    match skipBlank s with
    | [] => failAt .endInObject []
    | '"' :: rest => do
      let rest ← skipString rest
      match skipBlank rest with
      | [] => failAt .endInObject []
      | ':' :: rest => .ok rest
      | rest => failAt .expectedColon rest
    | rest => failAt .keyMustBeString rest
  | _ => .ok s

/-- Gets past a value and all that it contains. Each step reads at least one character, so as many
steps as there are characters are enough. -/
def skipItems : Nat → List Bracket → List Char → Except Fault (List Char)
  | 0, _, s => failAt .expectedValue s
  | fuel + 1, open_, s => do
    let (first, open_, rest) ←
      (match skipBlank s with
      | [] => failAt .endInValue []
      | 'n' :: rest => do return (false, open_, ← word ['u', 'l', 'l'] rest)
      | 't' :: rest => do return (false, open_, ← word ['r', 'u', 'e'] rest)
      | 'f' :: rest => do return (false, open_, ← word ['a', 'l', 's', 'e'] rest)
      | '-' :: rest => do return (false, open_, ← skipNumber rest)
      | '"' :: rest => do return (false, open_, ← skipString rest)
      | '[' :: rest => .ok (true, .list :: open_, rest)
      | '\x7b' :: rest => .ok (true, .object :: open_, rest)
      | c :: rest =>
        if c.isDigit then do return (false, open_, ← skipNumber (c :: rest))
        else failAt .expectedValue (c :: rest) : Except Fault (Bool × List Bracket × List Char))
    let (open_, rest) ← skipClosers first open_ rest
    if open_.isEmpty then .ok rest
    else
      let rest ← skipKey open_ rest
      skipItems fuel open_ rest

def skipValue (s : List Char) : Except Fault (List Char) :=
  skipItems (s.length + 1) [] s

end BranchCount.Json
