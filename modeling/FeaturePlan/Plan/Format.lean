/-
The two forms in which plans are written.

The **text** form has one line for each unit; the plan of a whole feature has a header line with the
feature's title, under which the units are indented.  The **JSON** form is an object with the flag
for a whole feature and the list of units; it leaves out the feature's title, and the keyword of a
unit that has none.

A printer of JSON values may fail, and so may rendering if it is left to such a printer.

Main definitions: `PlanFormat`, `renderText`, `planJson`, `PlanFormat.render`, and
`PlanFormat.renderWith` for any printer of JSON values.
-/

import FeaturePlan.Json.Printer
import FeaturePlan.Plan.Unit
import FeaturePlan.Text.Line

set_option relaxedAutoImplicit false
set_option autoImplicit false

namespace FeaturePlan

/-- The form in which a plan is written. -/
inductive PlanFormat where
  | text
  | json
deriving Repr, DecidableEq

/-! ### Text -/

/-- The title of the feature from which the first unit comes. -/
def leadingTitle : List PlanUnit → String
  | [] => ""
  | unit :: _ => unit.feature

/-- The lines of a plan in text form. -/
def planLines (units : List PlanUnit) (whole : Bool) : List String :=
  if whole then
    ("Feature: " ++ leadingTitle units) :: units.map fun unit => "  " ++ unit.describe
  else
    units.map PlanUnit.describe

/-- A plan in text form. -/
def renderText (units : List PlanUnit) (whole : Bool) : String :=
  String.ofList (Text.joinLines ((planLines units whole).map String.toList))

/-! ### JSON -/

/-- A unit as a JSON object. -/
def PlanUnit.toJson (unit : PlanUnit) : Json :=
  let keyword := match unit.keyword with
    | some word => [("keyword", Json.text word)]
    | none => []
  .object ([("kind", .text unit.kind.name), ("line", .count unit.line)] ++ keyword ++
    [("text", .text unit.text)])

/-- A plan as a JSON object. -/
def planJson (units : List PlanUnit) (whole : Bool) : Json :=
  .object [("whole_feature", .bool whole), ("units", .list (units.map PlanUnit.toJson))]

/-! ### Both forms -/

namespace PlanFormat

/-- The form that is used where none is asked for. -/
def default : PlanFormat := text

/-- The name of a form. -/
def name : PlanFormat → String
  | text => "text"
  | json => "json"

/-- A plan in the given form, without a line end after its last line. -/
def render (format : PlanFormat) (units : List PlanUnit) (whole : Bool) : String :=
  match format with
  | text => renderText units whole
  | json => (planJson units whole).render

/-- A plan in the given form, where JSON values are printed by `printJson`, which may fail. -/
def renderWith {φ : Type} (printJson : Json → Except φ String) (format : PlanFormat)
    (units : List PlanUnit) (whole : Bool) : Except φ String :=
  match format with
  | text => .ok (renderText units whole)
  | json => printJson (planJson units whole)

theorem renderWith_write (format : PlanFormat) (units : List PlanUnit) (whole : Bool) :
    format.renderWith Json.write units whole = .ok (format.render units whole) := by
  cases format <;> rfl

end PlanFormat

end FeaturePlan
