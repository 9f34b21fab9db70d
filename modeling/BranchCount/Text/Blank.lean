/-!
White space as the Unicode property White_Space has it, and trimming by it.
-/
namespace BranchCount.Text

def isBlank (c : Char) : Bool :=
  let n := c.toNat
  (9 ≤ n && n ≤ 13) || n = 0x20 || n = 0x85 || n = 0xA0 || n = 0x1680 ||
    (0x2000 ≤ n && n ≤ 0x200A) || n = 0x2028 || n = 0x2029 || n = 0x202F || n = 0x205F ||
    n = 0x3000

def trim (s : List Char) : List Char :=
  ((s.dropWhile isBlank).reverse.dropWhile isBlank).reverse

/-- Lower case of the letters A to Z. No other letter has a lower case form made of ASCII letters
that a name looked up here contains, so the look-up needs no more. -/
def lower (s : List Char) : List Char :=
  s.map Char.toLower

end BranchCount.Text
