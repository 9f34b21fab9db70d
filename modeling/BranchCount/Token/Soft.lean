import BranchCount.Token.Basic

/-!
Words that are keywords in some places only: `match`, `case` and `type`.

`match` and `case` are keywords at the start of a line on which a colon follows that stands in no
brackets, belongs to no `lambda` and is not the next token. `type` is one at the start of a line
when a name follows it and then, apart from what stands in square brackets, an equals sign.
-/
namespace BranchCount

/-- Whether a colon as described above follows on the line. -/
def opensBlock (depth : Int) (first seenLambda : Bool) : List Lexeme → Bool
  | [] => false
  | lexeme :: rest =>
    match lexeme.token with
    | .newline => false
    | .fixed "lambda" => opensBlock depth false (seenLambda || depth = 0) rest
    | .fixed ":" =>
      if depth = 0 then
        if seenLambda then opensBlock depth false false rest
        else if first then opensBlock depth false false rest
        else true
      else opensBlock depth false seenLambda rest
    | .fixed "(" | .fixed "[" | .fixed "\x7b" => opensBlock (depth + 1) false seenLambda rest
    | .fixed ")" | .fixed "]" | .fixed "\x7d" => opensBlock (depth - 1) false seenLambda rest
    | _ => opensBlock depth false seenLambda rest

def leadsToEquals (depth : Int) : List Lexeme → Bool
  | [] => false
  | lexeme :: rest =>
    match lexeme.token with
    | .newline => false
    | .fixed "[" => leadsToEquals (depth + 1) rest
    | .fixed "]" => leadsToEquals (depth - 1) rest
    | .fixed "=" => if depth = 0 then true else 0 < depth && leadsToEquals depth rest
    | _ => 0 < depth && leadsToEquals depth rest

def startsAlias : List Lexeme → Bool
  | [] => false
  | lexeme :: rest =>
    match lexeme.token with
    | .name _ | .fixed "type" | .fixed "match" | .fixed "case" => leadsToEquals 0 rest
    | _ => false

def Token.startsLine : Token → Bool
  | .newline | .indent | .dedent => true
  | _ => false

/-- Makes names of the words that are no keywords where they stand. -/
def settleKeywords (atLineStart : Bool) : List Lexeme → List Lexeme
  | [] => []
  | lexeme :: rest =>
    let settled :=
      match lexeme.token with
      | .fixed "match" =>
        if atLineStart && opensBlock 0 true false rest then lexeme.token else .name "match"
      | .fixed "case" =>
        if atLineStart && opensBlock 0 true false rest then lexeme.token else .name "case"
      | .fixed "type" => if atLineStart && startsAlias rest then lexeme.token else .name "type"
      | token => token
    { lexeme with token := settled } :: settleKeywords settled.startsLine rest

end BranchCount
