/-!
Sets of characters given as ranges of code points.
-/
namespace BranchCount.Text

/-- Whether a code point lies in one of the ranges, both ends included. The ranges are in rising
order, so half of those that are left can be ruled out at each of at most `fuel` steps. -/
def searchRanges (table : Array (Nat × Nat)) (n : Nat) : Nat → Nat → Nat → Bool
  | 0, _, _ => false
  | fuel + 1, low, high =>
    if low < high then
      let middle := (low + high) / 2
      match table[middle]? with
      | none => false
      | some (first, last) =>
        if n < first then searchRanges table n fuel low middle
        else if last < n then searchRanges table n fuel (middle + 1) high
        else true
    else
      false

def inRanges (table : Array (Nat × Nat)) (c : Char) : Bool :=
  searchRanges table c.toNat (table.size + 1) 0 table.size

end BranchCount.Text
