/-
The targets of a feature and the lines on which they stand.

A line is looked up in three places one after the other: among the scenarios, among the outlines and
among the steps of both.  Strung together these are the **targets** of the feature, and looking a
line up is finding the first target on it.  If no line is claimed twice the first target is the only
one, so **every target is found on its own line**, and the order of the targets plays no part.

Main definitions: `Target.line`, `Feature.headerTargets`, `Feature.targets`.

Main results:

* `Feature.targetAt?_eq_find?`, `Feature.headerTargetAt?_eq_find?` — a look-up is a search through
  one list;
* `Feature.targetAt?_eq_none_iff` — the lines on which nothing is found;
* `Feature.targetAt?_eq_some_iff`, `Feature.headerTargetAt?_eq_some_iff` — what is found if no line
  is claimed twice.
-/

import FeaturePlan.Proofs.PlanUnits

set_option relaxedAutoImplicit false
set_option autoImplicit false

namespace FeaturePlan

/-- The line on which a target stands. -/
def Target.line : Target → Nat
  | .scenario header => header.line
  | .outline header => header.line
  | .step _ entry => entry.line

variable {feature : Feature} {scenario outline owner : Scenario} {step : Step} {line : Nat}
  {target : Target} {entries : List Target}

/-! ### Searching a list of targets -/

theorem find?_line_eq_none_iff :
    (entries.find? fun target => target.line == line) = none ↔ line ∉ entries.map Target.line := by
  rw [List.find?_eq_none, List.mem_map]
  simp

/-- If no two targets share a line, a target is found iff it stands on the line. -/
theorem find?_line_eq_some_iff (hlines : (entries.map Target.line).Nodup) :
    (entries.find? fun target => target.line == line) = some target ↔
      target ∈ entries ∧ target.line = line := by
  constructor
  · intro h
    exact ⟨List.mem_of_find?_eq_some h, by simpa using List.find?_some h⟩
  · rintro ⟨hmem, rfl⟩
    cases h : entries.find? fun other => other.line == target.line with
    | none => exact absurd (List.mem_map_of_mem hmem) (find?_line_eq_none_iff.1 h)
    | some other =>
        -- the other target was found on the same line, so it is this one
        have hline : other.line = target.line := by simpa using List.find?_some h
        rw [List.inj_on_of_nodup_map hlines (List.mem_of_find?_eq_some h) hmem hline]

namespace Feature

/-! ### The targets of a feature -/

/-- The headers of the scenarios, then those of the outlines. -/
def headerTargets (feature : Feature) : List Target :=
  feature.scenarios.map Target.scenario ++ feature.outlines.map Target.outline

/-- The steps of the scenarios, then those of the outlines, each with its owner. -/
def stepTargets (feature : Feature) : List Target :=
  feature.allScenarios.flatMap fun owner => owner.steps.map (Target.step owner)

/-- Everything that a line of the feature can hold, in the order in which it is looked for. -/
def targets (feature : Feature) : List Target := feature.headerTargets ++ feature.stepTargets

theorem scenario_mem_headerTargets (h : scenario ∈ feature.scenarios) :
    Target.scenario scenario ∈ feature.headerTargets :=
  List.mem_append_left _ (List.mem_map_of_mem h)

theorem outline_mem_headerTargets (h : outline ∈ feature.outlines) :
    Target.outline outline ∈ feature.headerTargets :=
  List.mem_append_right _ (List.mem_map_of_mem h)

theorem step_mem_targets (howner : owner ∈ feature.allScenarios) (hstep : step ∈ owner.steps) :
    Target.step owner step ∈ feature.targets :=
  List.mem_append_right _ (List.mem_flatMap.2 ⟨owner, howner, List.mem_map_of_mem hstep⟩)

theorem map_line_headerTargets (feature : Feature) :
    feature.headerTargets.map Target.line = feature.allScenarios.map (·.line) := by
  rw [headerTargets, allScenarios, List.map_append, List.map_append, List.map_map, List.map_map]
  rfl

theorem map_line_stepTargets (feature : Feature) :
    feature.stepTargets.map Target.line = feature.steps.map (·.line) := by
  rw [stepTargets, steps, List.map_flatMap, List.map_flatMap]
  simp only [List.map_map]
  rfl

/-! ### Looking up is searching -/

theorem headerTargetAt?_eq_find? (feature : Feature) (line : Nat) :
    feature.headerTargetAt? line =
      feature.headerTargets.find? fun target => target.line == line := by
  rw [headerTargets, List.find?_append, List.find?_map, List.find?_map]
  rfl

theorem ownedStepAt?_eq_find? (feature : Feature) (line : Nat) :
    ownedStepAt? feature.allScenarios line =
      feature.stepTargets.find? fun target => target.line == line := by
  rw [stepTargets, List.find?_flatMap]
  simp only [List.find?_map]
  rfl

/-- Looking a line up is finding the first target on it. -/
theorem targetAt?_eq_find? (feature : Feature) (line : Nat) :
    feature.targetAt? line = feature.targets.find? fun target => target.line == line := by
  rw [targetAt?_eq_or, headerTargetAt?_eq_find?, ownedStepAt?_eq_find?, targets, List.find?_append]

/-- Nothing is found on the lines on which no target stands. -/
theorem targetAt?_eq_none_iff :
    feature.targetAt? line = none ↔ line ∉ feature.targets.map Target.line := by
  rw [targetAt?_eq_find?, find?_line_eq_none_iff]

/-- If no line is claimed twice, a target is found on a line iff it stands there. -/
theorem targetAt?_eq_some_iff (hlines : (feature.targets.map Target.line).Nodup) :
    feature.targetAt? line = some target ↔ target ∈ feature.targets ∧ target.line = line := by
  rw [targetAt?_eq_find?, find?_line_eq_some_iff hlines]

/-- If no two headers share a line, a header is found on a line iff it stands there. -/
theorem headerTargetAt?_eq_some_iff (hlines : (feature.allScenarios.map (·.line)).Nodup) :
    feature.headerTargetAt? line = some target ↔
      target ∈ feature.headerTargets ∧ target.line = line := by
  rw [← map_line_headerTargets] at hlines
  rw [headerTargetAt?_eq_find?, find?_line_eq_some_iff hlines]

/-- If no two headers share a line, each is found on its own, whatever steps claim that line. -/
theorem targetAt?_line_of_mem_headerTargets (hlines : (feature.allScenarios.map (·.line)).Nodup)
    (h : target ∈ feature.headerTargets) : feature.targetAt? target.line = some target := by
  rw [targetAt?_eq_or, (headerTargetAt?_eq_some_iff hlines).2 ⟨h, rfl⟩, Option.some_or]

end Feature

end FeaturePlan
