import BranchCount.Decimal.Shortest

/-!
JSON values and their compact text.

Members keep the order in which they are given, nothing is written between the parts of a value, and
in a string only quotes, backslashes and the characters below U+0020 are escaped.
-/
namespace BranchCount

/-- A number as it is read: an integer of at most 64 bits, or a double. -/
inductive Number where
  | integer (n : Int)
  | float (x : Float)
deriving Repr, Inhabited

inductive Json where
  | null
  | bool (b : Bool)
  | num (n : Number)
  | str (s : String)
  | arr (items : List Json)
  | obj (members : List (String × Json))
deriving Inhabited

namespace Json

def nat (n : Nat) : Json :=
  .num (.integer n)

def hexDigits (n : Nat) : List Char :=
  [Nat.digitChar (n / 4096 % 16), Nat.digitChar (n / 256 % 16), Nat.digitChar (n / 16 % 16),
    Nat.digitChar (n % 16)]

def escapeChar (c : Char) : List Char :=
  if c = '"' then ['\\', '"']
  else if c = '\\' then ['\\', '\\']
  else if c = '\n' then ['\\', 'n']
  else if c = '\r' then ['\\', 'r']
  else if c = '\t' then ['\\', 't']
  else if c = '\x08' then ['\\', 'b']
  else if c = '\x0c' then ['\\', 'f']
  else if c.toNat < 32 then ['\\', 'u'] ++ hexDigits c.toNat
  else [c]

def escape (s : List Char) : List Char :=
  s.flatMap escapeChar

def quote (s : String) : String :=
  String.ofList ('"' :: escape s.toList ++ ['"'])

def numberText : Number → String
  | .integer n => toString n
  | .float x => Decimal.diagnostic x

mutual

/-- The pieces of a value's text, in order. -/
def pieces : Json → List String
  | .null => ["null"]
  | .bool b => [if b then "true" else "false"]
  | .num n => [numberText n]
  | .str s => [quote s]
  | .arr items => "[" :: itemPieces items ++ ["]"]
  | .obj members => "\x7b" :: memberPieces members ++ ["\x7d"]

def itemPieces : List Json → List String
  | [] => []
  | v :: rest => pieces v ++ itemTail rest

def itemTail : List Json → List String
  | [] => []
  | v :: rest => "," :: pieces v ++ itemTail rest

def memberPieces : List (String × Json) → List String
  | [] => []
  | (k, v) :: rest => quote k :: ":" :: pieces v ++ memberTail rest

def memberTail : List (String × Json) → List String
  | [] => []
  | (k, v) :: rest => "," :: quote k :: ":" :: pieces v ++ memberTail rest

end

def render (v : Json) : String :=
  String.join v.pieces

end Json

end BranchCount
