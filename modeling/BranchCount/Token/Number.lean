import BranchCount.Token.Basic

/-!
Numbers: decimal, hexadecimal, octal and binary integers, decimal fractions and imaginary numbers.
-/
namespace BranchCount

def digitValue (c : Char) : Nat :=
  let n := c.toNat
  if n < 58 then n - 48 else if n < 71 then n - 55 else n - 87

def isDigitOf (base : Nat) (c : Char) : Bool :=
  (c.isDigit || ('a' ≤ c && c ≤ 'f') || ('A' ≤ c && c ≤ 'F')) && digitValue c < base

/-- Digits, between which single underscores may stand: the digits, how many characters were read,
and the rest. -/
def digitRun (base : Nat) : List Char → List Char × Nat × List Char
  | '_' :: d :: rest =>
    if isDigitOf base d then
      let (ds, n, rest) := digitRun base rest
      (d :: ds, n + 2, rest)
    else
      ([], 0, '_' :: d :: rest)
  | c :: rest =>
    if isDigitOf base c then
      let (ds, n, rest) := digitRun base rest
      (c :: ds, n + 1, rest)
    else
      ([], 0, c :: rest)
  | [] => ([], 0, [])

def digitsToNat (base : Nat) (ds : List Char) : Nat :=
  ds.foldl (fun n c => base * n + digitValue c) 0

structure NumberScan where
  token : Token
  size : Nat
  rest : List Char

def atExponent : List Char → Bool
  | 'e' :: s | 'E' :: s =>
    match s with
    | '+' :: c :: _ | '-' :: c :: _ => c.isDigit
    | c :: _ => c.isDigit
    | [] => false
  | _ => false

def decimalValue (whole fraction : List Char) (negative : Bool) (exponent : List Char) : Float :=
  let mantissa := digitsToNat 10 (whole ++ fraction)
  let e := digitsToNat 10 exponent
  let shift : Int := (if negative then -(e : Int) else e) - fraction.length
  if mantissa = 0 then 0.0
  else if 400 < shift + (whole ++ fraction).length then Float.ofScientific 1 false 400
  else if shift + (whole ++ fraction).length < -400 then 0.0
  else if 0 ≤ shift then Float.ofScientific mantissa false shift.toNat
  else Float.ofScientific mantissa true (-shift).toNat

def finishFloat (x : Float) (size : Nat) : List Char → NumberScan
  | 'j' :: rest | 'J' :: rest => ⟨.imaginary x, size + 1, rest⟩
  | rest => ⟨.float x, size, rest⟩

/-- Reads an exponent, if there is one, behind `size` bytes of a number that starts at `start`. -/
def scanExponent (start : Nat) (whole fraction : List Char) (size : Nat) (s : List Char) :
    Except SourceError NumberScan :=
  let mark := fun (s : List Char) => do
    if s.head? = some '_' then .error ⟨.misplacedUnderscore, start + size⟩
    let (negative, signed, t) : Bool × Nat × List Char :=
      match s with
      | '-' :: t => (true, 1, t)
      | '+' :: t => (false, 1, t)
      | t => (false, 0, t)
    if signed = 1 ∧ t.head? = some '_' then .error ⟨.misplacedUnderscore, start + size + 1⟩
    let (exponent, n, rest) := digitRun 10 t
    let size := size + 1 + signed + n
    if exponent.isEmpty ∨ (whole ++ fraction).isEmpty then .error ⟨.badDecimal, start + size⟩
    return finishFloat (decimalValue whole fraction negative exponent) size rest
  match s with
  | 'e' :: s | 'E' :: s => mark s
  | s =>
    if (whole ++ fraction).isEmpty then .error ⟨.badDecimal, start + size⟩
    else .ok (finishFloat (decimalValue whole fraction false []) size s)

def scanDecimal (start : Nat) (s : List Char) : Except SourceError NumberScan := do
  let (whole, size, rest) := digitRun 10 s
  match rest with
  | '.' :: t =>
    if t.head? = some '_' then .error ⟨.misplacedUnderscore, start + size⟩
    let (fraction, n, rest) := digitRun 10 t
    scanExponent start whole fraction (size + 1 + n) rest
  | rest =>
    if atExponent rest then scanExponent start whole [] size rest
    else
      match rest with
      | 'j' :: t | 'J' :: t => return ⟨.imaginary (decimalValue whole [] false []), size + 1, t⟩
      | t =>
        let n := digitsToNat 10 whole
        if s.head? = some '0' ∧ n ≠ 0 then .error ⟨.leadingZero, start + size⟩
        return ⟨.integer n, size, t⟩

def scanRadix (start base : Nat) (s : List Char) : Except SourceError NumberScan :=
  let (ds, n, rest) := digitRun base s
  if ds.isEmpty then .error ⟨.noDigits, start⟩
  else .ok ⟨.integer (digitsToNat base ds), n + 2, rest⟩

def scanNumber (start : Nat) : List Char → Except SourceError NumberScan
  | '0' :: 'x' :: s | '0' :: 'X' :: s => scanRadix start 16 s
  | '0' :: 'o' :: s | '0' :: 'O' :: s => scanRadix start 8 s
  | '0' :: 'b' :: s | '0' :: 'B' :: s => scanRadix start 2 s
  | s => scanDecimal start s

end BranchCount
