/-
The tree of a feature file.

A **feature** has scenarios and outlines, a **scenario** has steps, and every scenario and step
knows the line on which it stands.  Scenarios and outlines have the same shape; an outline is what
stands in the list of outlines.  Lines count from one, and nothing keeps two entries from claiming
the same line.

Main definitions: `Step`, `Scenario`, `Feature`, and the two walks `Feature.allScenarios` and
`Feature.steps`, which visit the scenarios before the outlines.
-/

import FeaturePlan.SortOn

set_option relaxedAutoImplicit false
set_option autoImplicit false

namespace FeaturePlan

/-- One step of a scenario. -/
structure Step where
  keyword : String
  text : String
  line : Nat
deriving Repr, DecidableEq

/-- The step with another keyword. -/
def Step.withKeyword (step : Step) (keyword : String) : Step := { step with keyword := keyword }

/-- A scenario or an outline. -/
structure Scenario where
  title : String
  /-- The line of the header. -/
  line : Nat
  steps : List Step := []
deriving Repr, DecidableEq

/-- The contents of a feature file. -/
structure Feature where
  title : String
  /-- The code of the language that the file declares. -/
  language : Option String := none
  scenarios : List Scenario := []
  outlines : List Scenario := []
deriving Repr, DecidableEq

namespace Feature

/-! ### Building -/

/-- The feature declared to be in the language with the given code. -/
def withLanguage (feature : Feature) (code : String) : Feature :=
  { feature with language := some code }

/-- The feature with a further scenario, behind those it has. -/
def addScenario (feature : Feature) (scenario : Scenario) : Feature :=
  { feature with scenarios := feature.scenarios ++ [scenario] }

/-- The feature with a further outline, behind those it has. -/
def addOutline (feature : Feature) (outline : Scenario) : Feature :=
  { feature with outlines := feature.outlines ++ [outline] }

/-! ### Walking through -/

/-- The scenarios, then the outlines. -/
def allScenarios (feature : Feature) : List Scenario := feature.scenarios ++ feature.outlines

/-- The steps of the scenarios, then those of the outlines. -/
def steps (feature : Feature) : List Step := feature.allScenarios.flatMap (·.steps)

/-- Whether there is a scenario or an outline. -/
def hasScenarios (feature : Feature) : Bool :=
  !feature.scenarios.isEmpty || !feature.outlines.isEmpty

/-- The header lines of all scenarios and outlines in ascending order; a line that several of them
share is listed once for each. -/
def headerLines (feature : Feature) : List Nat :=
  sortOn id (feature.allScenarios.map (·.line))

end Feature

end FeaturePlan
