import BranchCount.Analysis.Result
import BranchCount.Json.Decode

/-!
Function records, and what they are made of, as JSON.

The members of a record's span stand directly among the members of the record. Besides from text, a
record can be decoded from a value that has been read already; members of such a value are taken in
the order of their names.
-/
namespace BranchCount

open Json (Cause Decoder Member Seen Shape Width need)

namespace Kind

def known : List (String × Kind) :=
  all.map fun k => (k.name, k)

def decoder : Decoder Kind :=
  .variant known

def toJson (k : Kind) : Json :=
  .str k.name

end Kind

namespace ErrorType

def decoder : Decoder ErrorType :=
  .variant (all.map fun t => (t.name, t))

def toJson (t : ErrorType) : Json :=
  .str t.name

end ErrorType

structure PartialSpan where
  line : Option Nat := none
  col : Option Nat := none
  endLine : Option Nat := none
  endCol : Option Nat := none

namespace PartialSpan

def place {σ : Type} (width : Width) (put : Nat → σ → σ) : σ → Decoder σ := fun p s => do
  let (n, rest) ← Decoder.count width s
  return (put n p, rest)

def build (p : PartialSpan) : Except Cause Span := do
  let line ← need "line" p.line
  let col ← need "col" p.col
  let endLine ← need "end_line" p.endLine
  let endCol ← need "end_col" p.endCol
  return ⟨line, col, endLine, endCol⟩

/-- Takes a member that has been read if it belongs to a span. -/
def take (p : PartialSpan) (key : String) (seen : Seen) : Except Cause PartialSpan :=
  let put := fun (old : Option Nat) (set : Nat → PartialSpan) =>
    match old, seen with
    | some _, _ => .error (.duplicateField key)
    | none, .num n => (Width.size.check n).map set
    | none, seen => .error (.wrongType seen Width.size.name)
  match key with
  | "line" => put p.line fun n => { p with line := some n }
  | "col" => put p.col fun n => { p with col := some n }
  | "end_line" => put p.endLine fun n => { p with endLine := some n }
  | "end_col" => put p.endCol fun n => { p with endCol := some n }
  | _ => .ok p

end PartialSpan

namespace Span

def shape : Shape PartialSpan Span where
  title := "struct Span"
  fields :=
    [ { name := "line", isSet := fun p => p.line.isSome,
        read := PartialSpan.place .size fun n p => { p with line := some n } },
      { name := "col", isSet := fun p => p.col.isSome,
        read := PartialSpan.place .size fun n p => { p with col := some n } },
      { name := "end_line", isSet := fun p => p.endLine.isSome,
        read := PartialSpan.place .size fun n p => { p with endLine := some n } },
      { name := "end_col", isSet := fun p => p.endCol.isSome,
        read := PartialSpan.place .size fun n p => { p with endCol := some n } } ]
  start := {}
  build := PartialSpan.build

def members (s : Span) : List (String × Json) :=
  [("line", .nat s.line), ("col", .nat s.col), ("end_line", .nat s.endLine),
    ("end_col", .nat s.endCol)]

def toJson (s : Span) : Json :=
  .obj s.members

end Span

structure PartialContribution where
  kind : Option Kind := none
  line : Option Nat := none
  amount : Option Nat := none
  description : Option String := none

def PartialContribution.build (p : PartialContribution) : Except Cause Contribution := do
  let kind ← need "type" p.kind
  let line ← need "line" p.line
  let amount ← need "amount" p.amount
  let description ← need "description" p.description
  return ⟨kind, line, amount, description⟩

namespace Contribution

def shape : Shape PartialContribution Contribution where
  title := "struct ComplexityContribution"
  fields :=
    [ { name := "type", isSet := fun p => p.kind.isSome,
        read := fun p s => do
          let (k, rest) ← Kind.decoder s
          return ({ p with kind := some k }, rest) },
      { name := "line", isSet := fun p => p.line.isSome,
        read := PartialSpan.place .size fun n p => { p with line := some n } },
      { name := "amount", isSet := fun p => p.amount.isSome,
        read := PartialSpan.place .word fun n p => { p with amount := some n } },
      { name := "description", isSet := fun p => p.description.isSome,
        read := fun p s => do
          let (d, rest) ← Decoder.text "a string" s
          return ({ p with description := some d }, rest) } ]
  start := {}
  build := PartialContribution.build

def toJson (c : Contribution) : Json :=
  .obj [("type", c.kind.toJson), ("line", .nat c.line), ("amount", .nat c.amount),
    ("description", .str c.description)]

end Contribution

/-- A record of which some members have been read; `others` holds those that are not its own, in
their order. -/
structure PartialRecord where
  name : Option String := none
  isAsync : Option Bool := none
  complexity : Option Nat := none
  contributions : Option (List Contribution) := none
  others : List (String × Seen) := []

/-- The members of the record itself are asked for before those of its span. -/
def PartialRecord.build (p : PartialRecord) : Except Cause FunctionRecord := do
  let name ← need "name" p.name
  let isAsync ← need "is_async" p.isAsync
  let complexity ← need "complexity" p.complexity
  let contributions ← need "details" p.contributions
  let span ← p.others.foldlM (fun span (key, seen) => span.take key seen) ({} : PartialSpan)
  let span ← span.build
  return { name, span, isAsync, complexity, contributions }

namespace FunctionRecord

/-- How deep values may be nested in a text, the record itself included. -/
def depthLimit : Nat := 128

def shape : Shape PartialRecord FunctionRecord where
  title := "struct FunctionRecord"
  positional := false
  fields :=
    [ { name := "name", isSet := fun p => p.name.isSome,
        read := fun p s => do
          let (v, rest) ← Decoder.text "a string" s
          return ({ p with name := some v }, rest) },
      { name := "is_async", isSet := fun p => p.isAsync.isSome,
        read := fun p s => do
          let (v, rest) ← Decoder.bool s
          return ({ p with isAsync := some v }, rest) },
      { name := "complexity", isSet := fun p => p.complexity.isSome,
        read := PartialSpan.place .word fun n p => { p with complexity := some n } },
      { name := "details", isSet := fun p => p.contributions.isSome,
        read := fun p s => do
          let (v, rest) ← Decoder.list Contribution.shape.decode s
          return ({ p with contributions := some v }, rest) } ]
  other p key s := do
    let (seen, rest) ← Json.value (2 * s.length + 2) (depthLimit - 1) s
    return ({ p with others := p.others ++ [(key, seen)] }, rest)
  start := {}
  build := PartialRecord.build

def toJson (f : FunctionRecord) : Json :=
  .obj ([("name", .str f.name)] ++ f.span.members ++
    [("is_async", .bool f.isAsync), ("complexity", .nat f.complexity),
      ("details", .arr (f.contributions.map Contribution.toJson))])

end FunctionRecord

structure PartialDistribution where
  low : Option Nat := none
  medium : Option Nat := none
  high : Option Nat := none
  veryHigh : Option Nat := none

def PartialDistribution.build (p : PartialDistribution) : Except Cause Distribution := do
  let low ← need "low" p.low
  let medium ← need "medium" p.medium
  let high ← need "high" p.high
  let veryHigh ← need "very_high" p.veryHigh
  return { low, medium, high, veryHigh }

namespace Distribution

def shape : Shape PartialDistribution Distribution where
  title := "struct ComplexityDistribution"
  fields :=
    [ { name := "low", isSet := fun p => p.low.isSome,
        read := PartialSpan.place .size fun n p => { p with low := some n } },
      { name := "medium", isSet := fun p => p.medium.isSome,
        read := PartialSpan.place .size fun n p => { p with medium := some n } },
      { name := "high", isSet := fun p => p.high.isSome,
        read := PartialSpan.place .size fun n p => { p with high := some n } },
      { name := "very_high", isSet := fun p => p.veryHigh.isSome,
        read := PartialSpan.place .size fun n p => { p with veryHigh := some n } } ]
  start := {}
  build := PartialDistribution.build

def toJson (d : Distribution) : Json :=
  .obj [("low", .nat d.low), ("medium", .nat d.medium), ("high", .nat d.high),
    ("very_high", .nat d.veryHigh)]

end Distribution

def Failure.members (f : Failure) : List (String × Json) :=
  [("error", .str f.error), ("error_type", f.errorType.toJson)] ++
    match f.line with
    | some n => [("line", .nat n)]
    | none => []

/-- A result as editors read it: one flat object. -/
def AnalysisResult.toJson : AnalysisResult → Json
  | .success file =>
    .obj [("success", .bool true), ("functions", .arr (file.functions.map FunctionRecord.toJson)),
      ("total_functions", .nat file.functions.length), ("config_used", .str file.configUsed)]
  | .failure f =>
    .obj ([("success", .bool false)] ++ f.members ++ [("functions", .arr [])])

end BranchCount
