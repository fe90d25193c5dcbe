/-
The units of a plan.

A plan has one **unit** for each line that was asked for.  A unit says what stands on the line: a
scenario, an outline, a step or nothing.  Only the unit of a step has a keyword.

Main definitions: `UnitKind`, `PlanUnit`, `Feature.unitAt`, `PlanUnit.describe`.
-/

import FeaturePlan.Feature.Target

set_option relaxedAutoImplicit false
set_option autoImplicit false

namespace FeaturePlan

/-- What a unit lands on. -/
inductive UnitKind where
  | scenario
  | outline
  | step
  | empty
deriving Repr, DecidableEq

/-- The name of a kind of unit. -/
def UnitKind.name : UnitKind → String
  | scenario => "scenario"
  | outline => "outline"
  | step => "step"
  | empty => "empty"

/-- What is planned for one line. -/
structure PlanUnit where
  kind : UnitKind
  line : Nat
  /-- The keyword of a step. -/
  keyword : Option String := none
  /-- The title of a scenario or the text of a step. -/
  text : String
  /-- The title of the feature that was planned. -/
  feature : String
deriving Repr, DecidableEq

/-- The unit for a line of a feature. -/
def Feature.unitAt (feature : Feature) (line : Nat) : PlanUnit :=
  match feature.targetAt? line with
  | some (.scenario scenario) => ⟨.scenario, line, none, scenario.title, feature.title⟩
  | some (.outline outline) => ⟨.outline, line, none, outline.title, feature.title⟩
  | some (.step _ step) => ⟨.step, line, some step.keyword, step.text, feature.title⟩
  | none => ⟨.empty, line, none, "", feature.title⟩

namespace PlanUnit

/-- What a unit says after its line number. -/
def content (unit : PlanUnit) : String :=
  match unit.kind, unit.keyword with
  | .step, some keyword => keyword ++ " " ++ unit.text
  | .empty, _ => unit.kind.name
  | kind, _ => kind.name ++ " " ++ unit.text

/-- A unit in one line. -/
def describe (unit : PlanUnit) : String := unit.line.repr ++ ": " ++ unit.content

end PlanUnit

end FeaturePlan
