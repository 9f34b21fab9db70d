import BranchCount.Json.Decode
import BranchCount.Rules.Preset

/-!
Rule sets, overrides and presets as JSON.
-/
namespace BranchCount

open Json (Member Shape)

structure PartialRules (text flag : Type) where
  name : Option text := none
  description : Option text := none
  counts : Flag → Option flag := fun _ => none

namespace PartialRules

variable {text flag : Type}

def setFlag (p : PartialRules text flag) (f : Flag) (v : flag) : PartialRules text flag :=
  { p with counts := fun g => if g = f then some v else p.counts g }

/-- The thirteen fields, in the order in which they are written. -/
def fields (dashed : Bool) (text' : Json.Decoder text) (flag' : Json.Decoder flag) :
    List (Member (PartialRules text flag)) :=
  { name := "name"
    isSet := fun p => p.name.isSome
    read := fun p s => do
      let (v, rest) ← text' s
      return ({ p with name := some v }, rest) } ::
  { name := "description"
    isSet := fun p => p.description.isSome
    read := fun p s => do
      let (v, rest) ← text' s
      return ({ p with description := some v }, rest) } ::
  Flag.all.map fun f =>
    { name := f.key
      aliases := if dashed then [f.dashedKey] else []
      isSet := fun p => (p.counts f).isSome
      read := fun p s => do
        let (v, rest) ← flag' s
        return (p.setFlag f v, rest) }

end PartialRules

namespace RuleOverride

/-- Every member is optional, `null` is as good as absent, and flags have two spellings. -/
def shape : Shape (PartialRules (Option String) (Option Bool)) RuleOverride where
  title := "struct RuleOverride"
  fields :=
    PartialRules.fields true (.optional (.text "a string")) (.optional .bool)
  start := {}
  build p := .ok
    { name := p.name.join
      description := p.description.join
      counts := fun f => (p.counts f).join }

def parse (contents : String) : Except Json.Refusal RuleOverride :=
  Json.decode shape.decode contents

def textMember (key : String) : Option String → List (String × Json)
  | some s => [(key, .str s)]
  | none => []

/-- Only the values that are given are written. -/
def toJson (o : RuleOverride) : Json :=
  .obj (textMember "name" o.name ++ textMember "description" o.description ++
    Flag.all.filterMap fun f => (o.counts f).map fun b => (f.key, .bool b))

end RuleOverride

namespace RuleSet

def shape : Shape (PartialRules String Bool) RuleSet where
  title := "struct RuleSet"
  fields := PartialRules.fields false (.text "a string") .bool
  start := {}
  build p := do
    let name ← Json.need "name" p.name
    let description ← Json.need "description" p.description
    Flag.all.forM fun f => discard (Json.need f.key (p.counts f))
    return { name, description, counts := fun f => (p.counts f).getD false }

def toJson (rules : RuleSet) : Json :=
  .obj ([("name", .str rules.name), ("description", .str rules.description)] ++
    Flag.all.map fun f => (f.key, .bool (rules.counts f)))

end RuleSet

namespace Preset

def decoder : Json.Decoder Preset :=
  Json.Decoder.variant (Preset.all.map fun p => (p.name, p))

def toJson (p : Preset) : Json :=
  .str p.name

end Preset

end BranchCount
