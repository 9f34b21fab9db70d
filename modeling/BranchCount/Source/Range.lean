/-!
Stretches of a source text, in bytes of its UTF-8 form.
-/
namespace BranchCount

/-- The bytes from `start` up to, and without, `stop`. -/
structure Range where
  start : Nat
  stop : Nat
deriving Repr, DecidableEq, Inhabited

def Range.ofEnds (start stop : Nat) : Range :=
  ⟨start, max start stop⟩

end BranchCount
