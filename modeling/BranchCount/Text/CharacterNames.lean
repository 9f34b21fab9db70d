import BranchCount.Text.NameTable

/-!
Which texts are names of characters, in any letter case.

Ideographs are named by their code points and Hangul syllables by their parts; other names are
looked up.
-/
namespace BranchCount.Text

def restAfter? (beginning : String) (text : List Char) : Option (List Char) :=
  if beginning.toList.isPrefixOf text then some (text.drop beginning.length) else none

def upperHex? (c : Char) : Option Nat :=
  if '0' ≤ c ∧ c ≤ '9' then some (c.toNat - 48)
  else if 'A' ≤ c ∧ c ≤ 'F' then some (c.toNat - 55)
  else none

def ideographRanges : List (Nat × Nat) :=
  [(0x3400, 0x4dbf), (0x4e00, 0x9fff), (0x20000, 0x2a6df), (0x2a700, 0x2b739), (0x2b740, 0x2b81d),
    (0x2b820, 0x2cea1), (0x2ceb0, 0x2ebe0), (0x30000, 0x3134a), (0x31350, 0x323af)]

/-- Whether a text of at most five digits is the code point of an ideograph. -/
def isIdeographCode (digits : List Char) : Bool :=
  match digits.mapM upperHex? with
  | some values =>
    let code := values.foldl (fun code d => 16 * code + d) 0
    values.length ≤ 5 && ideographRanges.any fun (first, last) => first ≤ code && code ≤ last
  | none => false

def syllableStarts : List String :=
  ["G", "GG", "N", "D", "DD", "R", "M", "B", "BB", "S", "SS", "", "J", "JJ", "C", "K", "T", "P",
    "H"]

def syllableVowels : List String :=
  ["A", "AE", "YA", "YAE", "EO", "E", "YEO", "YE", "O", "WA", "WAE", "OE", "YO", "U", "WEO", "WE",
    "WI", "YU", "EU", "YI", "I"]

def syllableEnds : List String :=
  ["", "G", "GG", "GS", "N", "NJ", "NH", "D", "L", "LG", "LM", "LB", "LS", "LT", "LP", "LH", "M",
    "B", "BS", "S", "SS", "NG", "J", "C", "K", "T", "P", "H"]

def isSyllable (text : List Char) : Bool :=
  syllableStarts.any fun start =>
    match restAfter? start text with
    | none => false
    | some rest =>
      syllableVowels.any fun vowel =>
        match restAfter? vowel rest with
        | none => false
        | some rest => syllableEnds.any fun ending => ending.toList = rest

/-- Whether a name is among those that a table goes on with. Here names are in reverse, since they
change at their ends. -/
def isListed (wanted current : List Char) : List Char → Bool
  | [] => current = wanted
  | c :: rest =>
    if c = '.' then current = wanted || isListed wanted [] rest
    else if c.isLower then
      current = wanted || isListed wanted (current.drop (c.toNat - 'a'.toNat)) rest
    else isListed wanted (c :: current) rest

def isCharacterName (name : List Char) : Bool :=
  let name := name.map Char.toUpper
  match restAfter? "CJK UNIFIED IDEOGRAPH-" name with
  | some digits => isIdeographCode digits
  | none =>
    match restAfter? "HANGUL SYLLABLE " name with
    | some parts => isSyllable parts
    | none => isListed name.reverse [] (nameTable.flatMap String.toList)

end BranchCount.Text
