/-!
The exact value of a floating-point number.

A finite double is `mantissa * 2 ^ exponent`, with a sign. Reading it off the bits gives a number on
which rounding can be done, and reasoned about, in natural numbers.
-/
namespace BranchCount.Decimal

/-- The magnitude `mantissa * 2 ^ exponent` and its sign. `lowestStep` holds when the next double
below is only half as far away as the next one above. -/
structure Binary where
  negative : Bool
  mantissa : Nat
  exponent : Int
  lowestStep : Bool
deriving Repr, DecidableEq, Inhabited

inductive Reading where
  | finite (value : Binary)
  | infinite (negative : Bool)
  | notANumber
deriving Repr, DecidableEq, Inhabited

/-- Splits the bits into sign, eleven bits of exponent and fifty-two bits of fraction. -/
def Reading.ofBits (bits : Nat) : Reading :=
  let negative : Bool := bits / Nat.pow 2 63 % 2 = 1
  let exponent : Nat := bits / Nat.pow 2 52 % Nat.pow 2 11
  let fraction : Nat := bits % Nat.pow 2 52
  if exponent = 2047 then
    if fraction = 0 then .infinite negative else .notANumber
  else if exponent = 0 then
    .finite ⟨negative, fraction, -1074, false⟩
  else
    .finite
      ⟨negative, Nat.pow 2 52 + fraction, (exponent : Int) - 1075,
        decide (fraction = 0 ∧ 1 < exponent)⟩

def Reading.ofFloat (x : Float) : Reading :=
  .ofBits x.toBits.toNat

def digitCount (n : Nat) : Nat :=
  if n = 0 then 0 else (Nat.toDigits 10 n).length

def powAbove (base : Nat) (e : Int) : Nat :=
  Nat.pow base e.toNat

def powBelow (base : Nat) (e : Int) : Nat :=
  Nat.pow base (-e).toNat

end BranchCount.Decimal
