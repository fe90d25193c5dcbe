/-
Looking lines up in a feature with other keywords.

Rewriting the keywords of a feature **commutes with everything that looks at lines**: with finding
what stands on a line, with the unit planned for it, and with cutting the feature down to a
selection.  What a selection means and which lines it asks for does not depend on keywords at all.
None of this needs the lines of the feature to be distinct.

Main definitions: `Target.mapKeywords`, `PlanUnit.mapKeyword`, rewriting what was found and planned.

Main results:

* `Feature.targetAt?_mapKeywords`, `Feature.unitAt_mapKeywords` — what is found and planned;
* `Feature.restrict_mapKeywords` — the feature cut down;
* `Heuristic.scope_mapKeywords`, `Feature.askedLines_mapKeywords` — the scope and the lines asked
  for.
-/

import FeaturePlan.Proofs.Scopes
import FeaturePlan.Proofs.Targets

set_option relaxedAutoImplicit false
set_option autoImplicit false

namespace FeaturePlan

/-- What was found on a line, with a function applied to the keywords. -/
def Target.mapKeywords (f : String → String) : Target → Target
  | .scenario header => .scenario (header.mapKeywords f)
  | .outline header => .outline (header.mapKeywords f)
  | .step owner entry => .step (owner.mapKeywords f) (entry.withKeyword (f entry.keyword))

@[simp] theorem Target.line_mapKeywords (f : String → String) (target : Target) :
    (target.mapKeywords f).line = target.line := by
  cases target <;> rfl

/-- The unit with a function applied to its keyword, if it has one. -/
def PlanUnit.mapKeyword (f : String → String) (unit : PlanUnit) : PlanUnit :=
  { unit with keyword := unit.keyword.map f }

variable (f : String → String) (feature : Feature) (selection : Selection) (scope : Scope)
  (line : Nat)

namespace Feature

/-! ### Finding and planning -/

theorem targets_mapKeywords :
    (feature.mapKeywords f).targets = feature.targets.map (Target.mapKeywords f) := by
  have hheaders : (feature.mapKeywords f).headerTargets =
      feature.headerTargets.map (Target.mapKeywords f) := by
    simp only [headerTargets, mapKeywords, List.map_append, List.map_map]
    rfl
  have hsteps : (feature.mapKeywords f).stepTargets =
      feature.stepTargets.map (Target.mapKeywords f) := by
    simp only [stepTargets, allScenarios_mapKeywords, List.flatMap_map, List.map_flatMap,
      Scenario.mapKeywords, List.map_map]
    rfl
  rw [targets, targets, List.map_append, hheaders, hsteps]

/-- The same entry is found in the rewritten feature, rewritten. -/
theorem targetAt?_mapKeywords :
    (feature.mapKeywords f).targetAt? line =
      (feature.targetAt? line).map (Target.mapKeywords f) := by
  rw [targetAt?_eq_find?, targets_mapKeywords, List.find?_map, targetAt?_eq_find?]
  simp only [Function.comp_def, Target.line_mapKeywords]

theorem unitAt_mapKeywords :
    (feature.mapKeywords f).unitAt line = (feature.unitAt line).mapKeyword f := by
  rw [unitAt, targetAt?_mapKeywords, unitAt]
  cases feature.targetAt? line with
  | none => rfl
  | some target => cases target <;> rfl

/-! ### Selections -/

theorem restrict_mapKeywords :
    (feature.mapKeywords f).restrict selection = (feature.restrict selection).mapKeywords f := by
  simp only [restrict, restrictScenarios, mapKeywords, List.filter_map]
  rfl

theorem headerLines_mapKeywords : (feature.mapKeywords f).headerLines = feature.headerLines := by
  rw [headerLines, map_line_mapKeywords, headerLines]

theorem hasScenarios_mapKeywords :
    (feature.mapKeywords f).hasScenarios = feature.hasScenarios := by
  simp [hasScenarios, mapKeywords]

theorem shown_mapKeywords :
    (feature.mapKeywords f).shown selection scope =
      (feature.shown selection scope).mapKeywords f := by
  cases scope with
  | feature => rfl
  | scenarios => exact restrict_mapKeywords f feature selection
  | steps => rfl

/-- The lines for which a selection asks do not depend on keywords. -/
theorem askedLines_mapKeywords :
    (feature.mapKeywords f).askedLines selection scope = feature.askedLines selection scope := by
  have hlines : (feature.mapKeywords f).targetLines selection scope =
      feature.targetLines selection scope := by
    cases scope with
    | feature => exact headerLines_mapKeywords f feature
    | scenarios =>
        rw [targetLines, restrict_mapKeywords, headerLines_mapKeywords, targetLines]
    | steps => rfl
  rw [askedLines, hasScenarios_mapKeywords, hlines, askedLines]

end Feature

/-- What a selection means does not depend on keywords. -/
theorem Heuristic.scope_mapKeywords (heuristic : Heuristic) :
    heuristic.scope selection (feature.mapKeywords f) = heuristic.scope selection feature :=
  Heuristic.scope_congr (Feature.hasHeaderIn_congr (feature.map_line_mapKeywords f))

end FeaturePlan
