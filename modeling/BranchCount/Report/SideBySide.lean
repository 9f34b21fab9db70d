import BranchCount.Comparison
import BranchCount.Report.Detailed

/-!
The report on a comparison of presets: a table of scores, and how the standard scores are spread.
-/
namespace BranchCount.Report

open Output

def comparisonWidth : Nat := 80

/-- Long names are cut and end in two points. -/
def shortName (name : String) : String :=
  if 40 < name.length then String.ofList (name.toList.take 38) ++ ".." else name

def breakdownText (parts : List (String × Nat)) : String :=
  ", ".intercalate (parts.map fun (label, amount) => label ++ ": " ++ toString amount)

def tableHeader : List String :=
  ["Function", "Line", "Strict", "Standard", "Comprehensive", "Standard breakdown", "Notes"]

def tableRow (row : ComparisonRow) : List String :=
  [shortName row.name, toString row.line, toString row.strict, toString row.standard,
    toString row.comprehensive, breakdownText row.breakdown, scoreNote row.standard]

def comparisonTable (style : Style) (rows : List ComparisonRow) : String :=
  Layout.table (if style.colored then Layout.boxFrame else Layout.asciiFrame) tableHeader
    (rows.map tableRow)

def presetText (preset : Preset) : String :=
  Layout.padRight 28 preset.rules.name ++ " - " ++ preset.rules.description

def rangeText (style : Style) (marker label : String) (count : Nat) : String :=
  "  " ++ style.emoji marker "" ++ Layout.padRight 17 label ++
    Layout.padLeft 3 (toString count) ++ " functions"

def ranges (d : Distribution) : List (String × String × Nat) :=
  [("✅ ", "Low (1-10):", d.low), ("⚡ ", "Medium (11-15):", d.medium),
    ("⚠️  ", "High (16-20):", d.high), ("🚨 ", "Very High (>20):", d.veryHigh)]

def sideBySide (style : Style) (c : PresetComparison) : Output Unit := do
  let rule := Layout.rule comparisonWidth
  line ""
  line rule
  line (style.header ("Complexity Comparison: " ++ c.path))
  line rule
  line ""
  line "Method Comparison:"
  line ""
  forM Preset.all fun preset => line (presetText preset)
  line ""
  line (comparisonTable style c.rows)
  line ""
  line rule
  line ("Total functions: " ++ toString c.rows.length)
  line ("Average complexity (standard): " ++ Decimal.fixed 2 c.average)
  line ""
  line "Complexity Distribution:"
  forM (ranges c.distribution) fun (marker, label, count) =>
    line (rangeText style marker label count)
  line ""
  line rule
  flush

end BranchCount.Report
