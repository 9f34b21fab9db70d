import BranchCount.Decimal.Binary

/-!
Numbers with a fixed number of decimal places.

The exact value of the double is rounded to the nearest multiple of the last place, and a half goes
to the even neighbour: with two places, 1.125 is written `1.12`.
-/
namespace BranchCount.Decimal

/-- The quotient rounded to the nearest integer, a half to the even one. -/
def roundDiv (num den : Nat) : Nat :=
  let q := num / den
  let twice := 2 * (num % den)
  if twice < den then q
  else if den < twice then q + 1
  else if q % 2 = 0 then q else q + 1

def padZeros (width : Nat) (digits : String) : String :=
  String.ofList (List.replicate (width - digits.length) '0') ++ digits

def withPoint (places n : Nat) : String :=
  if places = 0 then toString n
  else toString (n / Nat.pow 10 places) ++ "." ++ padZeros places (toString (n % Nat.pow 10 places))

/-- A magnitude `mantissa * 2 ^ exponent` in units of the last of `places` decimal places. -/
def Binary.inUnits (places : Nat) (b : Binary) : Nat :=
  roundDiv (b.mantissa * Nat.pow 10 places * powAbove 2 b.exponent) (powBelow 2 b.exponent)

def fixed (places : Nat) (x : Float) : String :=
  match Reading.ofFloat x with
  | .finite b => (if b.negative then "-" else "") ++ withPoint places (b.inUnits places)
  | .infinite negative => if negative then "-inf" else "inf"
  | .notANumber => "NaN"

end BranchCount.Decimal
