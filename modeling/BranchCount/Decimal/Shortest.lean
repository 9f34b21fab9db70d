import BranchCount.Decimal.Binary

/-!
The fewest decimal digits that read back as the same double.

Every real number in a certain interval around a double reads back as that double. For one digit,
two digits and so on the two multiples of the last place next to the double are tried; the first
number of digits for which one of them lies in the interval is the one that is used, and of two that
do the nearer is taken.
-/
namespace BranchCount.Decimal

structure Digits where
  digits : Nat
  exponent : Int
deriving Repr, DecidableEq, Inhabited

def leadingExponent (num den : Nat) : Int :=
  if den ≤ num then (digitCount (num / den) : Int) - 1
  else -(digitCount ((den + num - 1) / num - 1) : Int)

/-- The multiple of `10 ^ k` next to the magnitude that reads back as it, if one of the two
neighbours does. Magnitudes are compared in quarters of the last binary place. -/
def neighbour? (b : Binary) (k : Int) : Option Nat :=
  let left := powAbove 2 (b.exponent - 2) * powBelow 10 k
  let right := powBelow 2 (b.exponent - 2) * powAbove 10 k
  let value := 4 * b.mantissa * left
  let low := (4 * b.mantissa - if b.lowestStep then 1 else 2) * left
  let high := (4 * b.mantissa + 2) * left
  let closed := b.mantissa % 2 = 0
  let inside := fun c : Nat =>
    if closed then low ≤ c * right ∧ c * right ≤ high else low < c * right ∧ c * right < high
  let below := value / right
  let above := below + 1
  if inside below then
    if inside above ∧ above * right - value < value - below * right then some above
    else some below
  else if inside above then some above
  else none

def searchDigits (b : Binary) (lead : Int) : Nat → Nat → Digits
  | 0, count => ⟨b.mantissa, b.exponent + count⟩
  | tries + 1, count =>
    let k := lead + 1 - count
    match neighbour? b k with
    | some digits => ⟨digits, k⟩
    | none => searchDigits b lead tries (count + 1)

def dropZeros : Nat → Digits → Digits
  | 0, d => d
  | fuel + 1, d =>
    if d.digits ≠ 0 ∧ d.digits % 10 = 0 then dropZeros fuel ⟨d.digits / 10, d.exponent + 1⟩ else d

/-- The shortest digits of a magnitude, without zeros at their end. Seventeen digits always do. -/
def Binary.shortest (b : Binary) : Digits :=
  if b.mantissa = 0 then ⟨0, 0⟩
  else
    let lead := leadingExponent (b.mantissa * powAbove 2 b.exponent) (powBelow 2 b.exponent)
    dropZeros 20 (searchDigits b lead 17 1)

def zeros (n : Nat) : String :=
  String.ofList (List.replicate n '0')

def Digits.positional (d : Digits) : String :=
  let text := toString d.digits
  if 0 ≤ d.exponent then
    if d.digits = 0 then text else text ++ zeros d.exponent.toNat
  else
    let places := (-d.exponent).toNat
    if places < text.length then
      String.ofList (text.toList.take (text.length - places)) ++ "." ++
        String.ofList (text.toList.drop (text.length - places))
    else
      "0." ++ zeros (places - text.length) ++ text

def shortest (x : Float) : String :=
  match Reading.ofFloat x with
  | .finite b => (if b.negative then "-" else "") ++ b.shortest.positional
  | .infinite negative => if negative then "-inf" else "inf"
  | .notANumber => "NaN"

def Digits.scientific (d : Digits) : String :=
  let text := toString d.digits
  let lead := d.exponent + text.length - 1
  let first := String.ofList (text.toList.take 1)
  let others := String.ofList (text.toList.drop 1)
  first ++ (if others.isEmpty then "" else "." ++ others) ++ "e" ++
    (if lead < 0 then "-" else "+") ++ toString lead.natAbs

/-- The text of a double in a diagnostic: written out, with at least one decimal place, when its
leading digit stands between the fifth place behind the point and the sixteenth before it, and in
scientific notation otherwise. -/
def diagnostic (x : Float) : String :=
  match Reading.ofFloat x with
  | .finite b =>
    let d := b.shortest
    let lead := d.exponent + (toString d.digits).length - 1
    let body :=
      if b.mantissa = 0 then "0.0"
      else if -5 ≤ lead ∧ lead < 16 then
        if 0 ≤ d.exponent then d.positional ++ ".0" else d.positional
      else d.scientific
    (if b.negative then "-" else "") ++ body
  | .infinite negative => if negative then "-inf" else "inf"
  | .notANumber => "NaN"

end BranchCount.Decimal
