/-
Planning a selection of a feature file.

A plan is the output of the toolchain whose generator looks up what stands on each line and whose
renderer writes the units in the form that the settings ask for.  The generator cannot fail, which
its type says, and the renderer fails only if the printer of JSON values does.  So with a printer
that never fails a plan fails **only if the text is rejected**.

Main definitions: `planTools` and `planWith`, for any parser and any printer, and `plan`, which
reads the text by the grammar of feature files and prints by `Json.write`.
-/

import FeaturePlan.Gherkin.Grammar
import FeaturePlan.Generation
import FeaturePlan.Settings

set_option relaxedAutoImplicit false
set_option autoImplicit false

namespace FeaturePlan

section

variable {π φ : Type} (parse : String → Except π Feature) (printJson : Json → Except φ String)

/-- The toolchain of plans, for a parser of feature files and a printer of JSON values. -/
def planTools (settings : Settings) : Toolchain PlanUnit π Empty φ where
  lexicon := .builtin
  parse := parse
  generate := fun feature line => .ok (feature.unitAt line)
  format := settings.format.renderWith printJson
  heuristic := settings.heuristic

/-- Plans a selection of a text that `parse` reads. -/
def planWith (source : String) (selection : Selection) (settings : Settings) :
    Run PlanUnit (Failure π Empty φ) Generation :=
  (planTools parse printJson settings).run source selection

end

/-- Plans a selection of a feature file. -/
def plan (source : String) (selection : Selection) (settings : Settings) :
    Run PlanUnit (Failure SyntaxError Empty Empty) Generation :=
  planWith Feature.read Json.write source selection settings

end FeaturePlan
