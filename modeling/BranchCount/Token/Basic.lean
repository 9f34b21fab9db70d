import BranchCount.Decimal.Shortest
import BranchCount.Source.Range

/-!
Tokens of Python source text, and the ways in which a text can fail to be a module.
-/
namespace BranchCount

inductive StringKind where
  | plain
  | formatted
  | bytes
  | raw
  | rawFormatted
  | rawBytes
  | unicode
deriving Repr, DecidableEq, Inhabited

namespace StringKind

def letters : StringKind → String
  | plain => ""
  | formatted => "f"
  | bytes => "b"
  | raw => "r"
  | rawFormatted => "rf"
  | rawBytes => "rb"
  | unicode => "u"

def isRaw : StringKind → Bool
  | raw | rawFormatted | rawBytes => true
  | _ => false

def isFormatted : StringKind → Bool
  | formatted | rawFormatted => true
  | _ => false

def isBytes : StringKind → Bool
  | bytes | rawBytes => true
  | _ => false

def ofLetter? (c : Char) : Option StringKind :=
  match c.toLower with
  | 'r' => some raw
  | 'f' => some formatted
  | 'u' => some unicode
  | 'b' => some bytes
  | _ => none

def ofLetters? (a b : Char) : Option StringKind :=
  match a.toLower, b.toLower with
  | 'r', 'f' | 'f', 'r' => some rawFormatted
  | 'r', 'b' | 'b', 'r' => some rawBytes
  | _, _ => none

end StringKind

/-- A string as it is written: line ends are line feeds, and escapes are not replaced. -/
structure StringLiteral where
  kind : StringKind
  triple : Bool
  value : List Char
deriving Repr, DecidableEq, Inhabited

def StringLiteral.headSize (s : StringLiteral) : Nat :=
  s.kind.letters.length + if s.triple then 3 else 1

inductive Token where
  | name (text : String)
  | integer (n : Nat)
  | float (x : Float)
  | imaginary (x : Float)
  | string (literal : StringLiteral)
  | newline
  | indent
  | dedent
  /-- A keyword, an operator or a bracket. -/
  | fixed (spelling : String)
deriving Repr, Inhabited

namespace Token

def describe : Token → String
  | name text => "'" ++ text ++ "'"
  | integer n => "'" ++ toString n ++ "'"
  | float x => "'" ++ Decimal.shortest x ++ "'"
  | imaginary x => "0j" ++ Decimal.shortest x
  | string s =>
    let quotes := if s.triple then "\"\"\"" else "\""
    s.kind.letters ++ quotes ++ String.ofList s.value ++ quotes
  | newline => "Newline"
  | indent => "Indent"
  | dedent => "Dedent"
  | fixed spelling => "'" ++ spelling ++ "'"

def isFixed (spelling : String) : Token → Bool
  | fixed s => s = spelling
  | _ => false

end Token

structure Lexeme where
  token : Token
  range : Range
deriving Repr, Inhabited

inductive Problem where
  | unexpectedToken (token : Token)
  | unexpectedIndent
  | expectedIndent
  | unexpectedEnd
  | unexpectedCharacter (c : Char)
  | unexpectedNesting
  | unindentMismatch
  | inconsistentTabs
  | tabsAfterSpaces
  | badContinuation
  | endOfText
  | endOfLineInString
  | brokenString
  | brokenUnicode
  | noDigits
  | misplacedUnderscore
  | badDecimal
  | leadingZero
  | duplicateParameter (name : String)
  | missingDefault
  | bareStar
  | positionalAfterKeyword
  | unpackingAfterKeywords
  | repeatedKeyword (name : String)
  | starredAlone
  | doubleStarred
  | wildcardTarget
  | bytesNotAscii
  | mixedBytes
  | inFormatted (problem : Problem)
  | fieldNotClosed
  | singleBrace
  | emptyField
  | badConversion
  | unmatchedBracket (bracket : Char)
  | mismatchedBracket (opening closing : Char)
  | fieldsTooDeep
  | fieldStringNotClosed
deriving Repr, Inhabited

def Problem.message : Problem → String
  | unexpectedToken token => "invalid syntax. Got unexpected token " ++ token.describe
  | unexpectedIndent => "unexpected indent"
  | expectedIndent => "expected an indented block"
  | unexpectedEnd => "Got unexpected EOF"
  | unexpectedCharacter c => "Got unexpected token " ++ String.singleton c
  | unexpectedNesting => "Got unexpected nesting"
  | unindentMismatch => "unindent does not match any outer indentation level"
  | inconsistentTabs => "inconsistent use of tabs and spaces in indentation"
  | tabsAfterSpaces => "Tabs not allowed as part of indentation after spaces"
  | badContinuation => "unexpected character after line continuation character"
  | endOfText => "unexpected EOF while parsing"
  | endOfLineInString => "EOL while scanning string literal"
  | brokenString => "Got unexpected string"
  | brokenUnicode => "Got unexpected unicode"
  | noDigits => "ParseBigIntError \x7b kind: Empty \x7d"
  | misplacedUnderscore => "Invalid Syntax"
  | badDecimal => "Invalid decimal literal"
  | leadingZero => "Invalid Token"
  | duplicateParameter name => "duplicate argument '" ++ name ++ "' in function definition"
  | missingDefault => "non-default argument follows default argument"
  | bareStar => "named arguments must follow bare *"
  | positionalAfterKeyword => "positional argument follows keyword argument"
  | unpackingAfterKeywords => "iterable argument unpacking follows keyword argument unpacking"
  | repeatedKeyword name => "keyword argument repeated: " ++ name
  | starredAlone => "cannot use starred expression here"
  | doubleStarred => "cannot use double starred expression here"
  | wildcardTarget => "cannot use '_' as a target"
  | bytesNotAscii => "bytes can only contain ASCII literal characters"
  | mixedBytes => "cannot mix bytes and nonbytes literals"
  | inFormatted problem => "f-string: " ++ problem.message
  | fieldNotClosed => "expecting '\x7d'"
  | singleBrace => "single '\x7d' is not allowed"
  | emptyField => "empty expression not allowed"
  | badConversion => "invalid conversion character"
  | unmatchedBracket bracket => "unmatched '" ++ String.singleton bracket ++ "'"
  | mismatchedBracket opening closing =>
    "closing parenthesis '" ++ String.singleton closing ++
      "' does not match opening parenthesis '" ++ String.singleton opening ++ "'"
  | fieldsTooDeep => "expressions nested too deeply"
  | fieldStringNotClosed => "unterminated string"

structure SourceError where
  problem : Problem
  offset : Nat
deriving Repr, Inhabited

/-- What comes behind the last token: the end of the text, or something that is no token. -/
inductive Ending where
  | ended
  | broken (error : SourceError)
deriving Repr, Inhabited

/-- The tokens of a text, up to its end or to the first thing that is no token. -/
structure TokenStream where
  lexemes : List Lexeme
  ending : Ending
deriving Repr, Inhabited

end BranchCount
