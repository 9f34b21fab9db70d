import BranchCount.Text.Bytes
import BranchCount.Text.Emoji
import BranchCount.Text.Identifier
import BranchCount.Token.Number

/-!
From source text to tokens.

Indentation at the start of a line becomes tokens of its own. Tabs and spaces are counted apart, and
a line whose indentation would be deeper or less deep depending on the width of a tab is refused.
Inside brackets line ends count for nothing; brackets are only counted here, not matched.
-/
namespace BranchCount

structure Level where
  tabs : Nat := 0
  spaces : Nat := 0
deriving Repr, DecidableEq, Inhabited

/-- Compares two indentations; `none` if the answer would depend on the width of a tab. -/
def Level.compare? (a b : Level) : Option Ordering :=
  match compare a.tabs b.tabs with
  | .lt => if a.spaces ≤ b.spaces then some .lt else none
  | .gt => if b.spaces ≤ a.spaces then some .gt else none
  | .eq => some (compare a.spaces b.spaces)

def isLineEnd (c : Char) : Bool :=
  c = '\n' || c = '\r'

structure Scan where
  rest : List Char
  offset : Nat
  nesting : Nat := 0
  atLineStart : Bool := true
  levels : List Level := []
deriving Repr, Inhabited

/-- What stands at the start of a line: its indentation, the offset behind it, and the text there.
Lines that are blank or hold only a comment are passed over. -/
def scanIndentation (comment : Bool) (level : Level) (offset : Nat) :
    List Char → Except SourceError (Level × Nat × List Char)
  | [] => .ok ({}, offset, [])
  | '\r' :: '\n' :: rest => scanIndentation false {} (offset + 2) rest
  | c :: rest =>
    if isLineEnd c then scanIndentation false {} (offset + 1) rest
    else if comment then scanIndentation true level (offset + c.utf8Size) rest
    else if c = ' ' then
      scanIndentation false { level with spaces := level.spaces + 1 } (offset + 1) rest
    else if c = '\t' then
      if level.spaces ≠ 0 then .error ⟨.tabsAfterSpaces, offset⟩
      else scanIndentation false { level with tabs := level.tabs + 1 } (offset + 1) rest
    else if c = '#' then scanIndentation true {} (offset + 1) rest
    else if c = '\x0c' then scanIndentation false {} (offset + 1) rest
    else .ok (level, offset, c :: rest)

def closeLevels (level : Level) (offset : Nat) :
    List Level → Except SourceError (List Lexeme × List Level)
  | [] =>
    match level.compare? {} with
    | some .eq => .ok ([], [])
    | some _ => .error ⟨.unindentMismatch, offset⟩
    | none => .error ⟨.inconsistentTabs, offset⟩
  | top :: outer =>
    match level.compare? top with
    | none => .error ⟨.inconsistentTabs, offset⟩
    | some .eq => .ok ([], top :: outer)
    | some .gt => .error ⟨.unindentMismatch, offset⟩
    | some .lt => do
      let (lexemes, levels) ← closeLevels level offset outer
      return (⟨.dedent, ⟨offset, offset⟩⟩ :: lexemes, levels)

def changeLevel (level : Level) (offset : Nat) (levels : List Level) :
    Except SourceError (List Lexeme × List Level) :=
  match level.compare? (levels.headD {}) with
  | none => .error ⟨.inconsistentTabs, offset⟩
  | some .eq => .ok ([], levels)
  | some .gt =>
    .ok ([⟨.indent, ⟨offset - level.spaces - level.tabs, offset⟩⟩], level :: levels)
  | some .lt => closeLevels level offset levels

/-- A string's value behind its opening quotes, the offset behind its closing quotes, and the text
there. Line ends of any kind become line feeds. -/
def scanString (quote : Char) (triple : Bool) (offset : Nat) :
    List Char → Except SourceError (List Char × Nat × List Char)
  | [] => .error ⟨if triple then .endOfText else .brokenString, offset⟩
  | '\\' :: '\r' :: '\n' :: rest => do
    let (value, found) ← scanString quote triple (offset + 3) rest
    return ('\\' :: '\n' :: value, found)
  | '\\' :: '\r' :: rest => do
    let (value, found) ← scanString quote triple (offset + 2) rest
    return ('\\' :: '\n' :: value, found)
  | '\\' :: c :: rest => do
    let (value, found) ← scanString quote triple (offset + 1 + c.utf8Size) rest
    return ('\\' :: c :: value, found)
  | '\r' :: '\n' :: rest =>
    if triple then do
      let (value, found) ← scanString quote triple (offset + 2) rest
      return ('\n' :: value, found)
    else .error ⟨.endOfLineInString, offset + 2⟩
  | c :: rest =>
    if isLineEnd c then
      if triple then do
        let (value, found) ← scanString quote triple (offset + 1) rest
        return ('\n' :: value, found)
      else .error ⟨.endOfLineInString, offset + 1⟩
    else if c = quote then
      if triple then
        if rest.take 2 = [quote, quote] then .ok ([], offset + 3, rest.drop 2)
        else do
          let (value, found) ← scanString quote triple (offset + 1) rest
          return (c :: value, found)
      else .ok ([], offset + 1, rest)
    else do
      let (value, found) ← scanString quote triple (offset + c.utf8Size) rest
      return (c :: value, found)

def stringStart? : List Char → Option (StringKind × Nat)
  | '"' :: _ | '\'' :: _ => some (.plain, 0)
  | a :: '"' :: _ | a :: '\'' :: _ => (StringKind.ofLetter? a).map (·, 1)
  | a :: b :: '"' :: _ | a :: b :: '\'' :: _ => (StringKind.ofLetters? a b).map (·, 2)
  | _ => none

/-- The words that cannot be names. Three of them are names after all in most places. -/
def keywords : List String :=
  ["False", "None", "True", "and", "as", "assert", "async", "await", "break", "case", "class",
    "continue", "def", "del", "elif", "else", "except", "finally", "for", "from", "global", "if",
    "import", "in", "is", "lambda", "match", "nonlocal", "not", "or", "pass", "raise", "return",
    "try", "type", "while", "with", "yield"]

/-- Operators and other marks; of those that start alike the longer come first. -/
def marks : List String :=
  ["**=", "//=", "<<=", ">>=", "...", "!=", "==", "+=", "-=", "*=", "/=", "%=", "&=", "|=", "^=",
    "@=", "->", ":=", "**", "//", "<<", ">>", "<=", ">=", "=", "+", "-", "*", "/", "%", "|", "^",
    "&", "@", "~", ":", ";", "<", ">", ",", "."]

def isOpening (c : Char) : Bool :=
  c = '(' || c = '[' || c = '\x7b'

def isClosing (c : Char) : Bool :=
  c = ')' || c = ']' || c = '\x7d'

def mark? (s : List Char) : Option String :=
  marks.find? fun m => m.toList.isPrefixOf s

namespace Scan

def emit (s : Scan) (token : Token) (size : Nat) (rest : List Char) : List Lexeme × Scan :=
  ([⟨token, ⟨s.offset, s.offset + size⟩⟩],
    { s with rest := rest, offset := s.offset + size, atLineStart := false })

def skip (s : Scan) (size : Nat) (rest : List Char) : List Lexeme × Scan :=
  ([], { s with rest := rest, offset := s.offset + size, atLineStart := false })

def scanLiteral (s : Scan) (kind : StringKind) (letters : Nat) :
    Except SourceError (List Lexeme × Scan) := do
  match s.rest.drop letters with
  | quote :: rest =>
    let triple := rest.take 2 = [quote, quote]
    let size := letters + if triple then 3 else 1
    let rest := if triple then rest.drop 2 else rest
    let (value, stop, rest) ← scanString quote triple (s.offset + size) rest
    return s.emit (.string ⟨kind, triple, value⟩) (stop - s.offset) rest
  | [] => return s.skip 0 []

def scanWord (s : Scan) : List Lexeme × Scan :=
  let letters := s.rest.takeWhile Text.isIdentifierPart
  let word := String.ofList letters
  s.emit (if keywords.contains word then .fixed word else .name word) word.utf8ByteSize
    (s.rest.drop letters.length)

def scanLineEnd (s : Scan) (size : Nat) (rest : List Char) : List Lexeme × Scan :=
  if s.nesting = 0 then
    ([⟨.newline, ⟨s.offset, s.offset + size⟩⟩],
      { s with rest := rest, offset := s.offset + size, atLineStart := true })
  else
    s.skip size rest

/-- A backslash joins a line with the next one, of which there must be something. -/
def scanContinuation (s : Scan) (rest : List Char) : Except SourceError (List Lexeme × Scan) :=
  let join := fun (size : Nat) (rest : List Char) =>
    if rest.isEmpty then .error ⟨.endOfText, s.offset + size⟩ else .ok (s.skip size rest)
  match rest with
  | '\r' :: '\n' :: rest => join 3 rest
  | '\n' :: rest | '\r' :: rest => join 2 rest
  | _ => .error ⟨.badContinuation, s.offset + 1⟩

def scanOther (s : Scan) (c : Char) (rest : List Char) :
    Except SourceError (List Lexeme × Scan) := do
  if c = '\r' ∧ rest.head? = some '\n' then return s.scanLineEnd 2 (rest.drop 1)
  else if isLineEnd c then return s.scanLineEnd 1 rest
  else if c = ' ' ∨ c = '\t' ∨ c = '\x0c' then return s.skip 1 rest
  else if c = '#' then
    let text := rest.takeWhile (!isLineEnd ·)
    return s.skip (1 + Text.byteCount text) (rest.drop text.length)
  else if c = '\\' then s.scanContinuation rest
  else if c.isDigit ∨ (c = '.' ∧ (rest.head?.any Char.isDigit)) then
    let number ← scanNumber s.offset (c :: rest)
    return s.emit number.token number.size number.rest
  else if isOpening c then
    let (lexemes, s) := s.emit (.fixed (String.singleton c)) 1 rest
    return (lexemes, { s with nesting := s.nesting + 1 })
  else if isClosing c then
    if s.nesting = 0 then .error ⟨.unexpectedNesting, s.offset + 1⟩
    else
      let (lexemes, s) := s.emit (.fixed (String.singleton c)) 1 rest
      return (lexemes, { s with nesting := s.nesting - 1 })
  else
    match mark? (c :: rest) with
    | some mark => return s.emit (.fixed mark) mark.length (rest.drop (mark.length - 1))
    | none =>
      if c = '!' then .error ⟨.unexpectedCharacter c, s.offset⟩
      else if Text.isEmoji c then return s.emit (.name (String.singleton c)) c.utf8Size rest
      else .error ⟨.unexpectedCharacter c, s.offset + c.utf8Size⟩

/-- The tokens at the end of a text: a line end if it is missing, and the end of all
indentations. -/
def finish (s : Scan) : Except SourceError (List Lexeme) :=
  if s.nesting ≠ 0 then .error ⟨.endOfText, s.offset⟩
  else
    let here : Range := ⟨s.offset, s.offset⟩
    let lineEnd : List Lexeme := if s.atLineStart then [] else [⟨.newline, here⟩]
    .ok (lineEnd ++ s.levels.map fun _ => ⟨.dedent, here⟩)

def openLine (s : Scan) : Except SourceError (List Lexeme × Scan) := do
  if s.atLineStart then
    let (level, offset, rest) ← scanIndentation false {} s.offset s.rest
    let (lexemes, levels) ← changeLevel level offset s.levels
    return (lexemes, { s with rest := rest, offset := offset, levels := levels })
  else
    return ([], s)

def step (s : Scan) : Except SourceError (List Lexeme × Option Scan) := do
  let (before, s) ← s.openLine
  match s.rest with
  | [] => return (before ++ (← s.finish), none)
  | c :: rest =>
    let (lexemes, s) ←
      match stringStart? s.rest with
      | some (kind, letters) => s.scanLiteral kind letters
      | none =>
        if Text.isIdentifierStart c then pure s.scanWord else s.scanOther c rest
    return (before ++ lexemes, some s)

/-- Reads everything. A step takes at least one character, so `fuel` need not be more than one above
their number. -/
def run : Nat → Scan → TokenStream
  | 0, _ => ⟨[], .ended⟩
  | fuel + 1, s =>
    match s.step with
    | .error e => ⟨[], .broken e⟩
    | .ok (lexemes, none) => ⟨lexemes, .ended⟩
    | .ok (lexemes, some s) =>
      let later := s.run fuel
      ⟨lexemes ++ later.lexemes, later.ending⟩

end Scan

/-- The tokens of a text whose first byte has the given offset. A byte order mark is passed over. -/
def tokenize (start : Nat) (text : List Char) : TokenStream :=
  let scan : Scan :=
    match text with
    | '\ufeff' :: rest => { rest, offset := start + 3 }
    | _ => { rest := text, offset := start }
  scan.run (text.length + 1)

end BranchCount
