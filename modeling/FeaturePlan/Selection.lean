/-
Selections of lines.

A selection is a range of lines, both ends included, and the text that it covers.  A range whose
first line comes after its last one is empty.  The text is taken as given: it may differ from what
the lines hold.

Main definitions:

* `Selection`, `Selection.contains`;
* `Selection.ofLines`, the selection of some lines of a text;
* `Feature.restrict`, the feature cut down to the scenarios in a selection.
-/

import FeaturePlan.Feature.Basic
import FeaturePlan.Text.Line

set_option relaxedAutoImplicit false
set_option autoImplicit false

namespace FeaturePlan

/-- A range of lines with the text that it covers. -/
structure Selection where
  first : Nat
  last : Nat
  text : String
deriving Repr, DecidableEq

namespace Selection

/-- Whether a line lies in the selection. -/
def contains (selection : Selection) (line : Nat) : Bool :=
  selection.first ≤ line && line ≤ selection.last

@[simp] theorem contains_iff {selection : Selection} {line : Nat} :
    selection.contains line = true ↔ selection.first ≤ line ∧ line ≤ selection.last := by
  simp [contains]

/-- The lines with their numbers, counted on from `number`, whose numbers lie in a range. -/
def coveredLines (first last : Nat) : (number : Nat) → List (List Char) → List (List Char)
  | _, [] => []
  | number, line :: rest =>
    if first ≤ number ∧ number ≤ last then line :: coveredLines first last (number + 1) rest
    else coveredLines first last (number + 1) rest

/-- The selection of the lines from `first` to `last` of a text, or to its end if no last line is
given.  The covered text has no line end after its last line. -/
def ofLines (source : String) (first : Nat) (last? : Option Nat) : Selection :=
  let lines := Text.lines source.toList
  let last := last?.getD lines.length
  ⟨first, last, String.ofList (Text.joinLines (coveredLines first last 1 lines))⟩

end Selection

/-! ### Cutting a feature down -/

/-- The scenarios of a list whose headers lie in the selection. -/
def restrictScenarios (scenarios : List Scenario) (selection : Selection) : List Scenario :=
  scenarios.filter fun scenario => selection.contains scenario.line

/-- The feature with only those scenarios and outlines whose headers lie in the selection. -/
def Feature.restrict (feature : Feature) (selection : Selection) : Feature :=
  { feature with
    scenarios := restrictScenarios feature.scenarios selection
    outlines := restrictScenarios feature.outlines selection }

end FeaturePlan
