/-!
The size of a text in bytes of its UTF-8 form.
-/
namespace BranchCount.Text

def byteCount : List Char → Nat
  | [] => 0
  | c :: rest => c.utf8Size + byteCount rest

end BranchCount.Text
