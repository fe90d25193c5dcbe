/-
What stands on a line of a feature.

When several entries claim a line, a **scenario** header goes before an **outline** header, and both
go before a **step**; among entries of the same sort the first in the tree is taken.

Main definitions: `Target`, `Feature.targetAt?`.
-/

import FeaturePlan.Feature.Basic

set_option relaxedAutoImplicit false
set_option autoImplicit false

namespace FeaturePlan

/-- An entry of a feature that a line can hold. -/
inductive Target where
  | scenario (scenario : Scenario)
  | outline (outline : Scenario)
  /-- A step with the scenario or outline that it belongs to. -/
  | step (owner : Scenario) (step : Step)
deriving Repr, DecidableEq

/-- The first step of the scenario on the given line. -/
def Scenario.stepAt? (scenario : Scenario) (line : Nat) : Option Step :=
  scenario.steps.find? (·.line == line)

/-- The first scenario of a list whose header is on the given line. -/
def headerAt? (scenarios : List Scenario) (line : Nat) : Option Scenario :=
  scenarios.find? (·.line == line)

/-- The first step on the given line in a list of scenarios, with its scenario. -/
def ownedStepAt? (scenarios : List Scenario) (line : Nat) : Option Target :=
  scenarios.findSome? fun scenario => (scenario.stepAt? line).map (Target.step scenario)

/-- What the feature has on the given line. -/
def Feature.targetAt? (feature : Feature) (line : Nat) : Option Target :=
  ((headerAt? feature.scenarios line).map Target.scenario).or <|
    ((headerAt? feature.outlines line).map Target.outline).or <|
      ownedStepAt? feature.allScenarios line

end FeaturePlan
