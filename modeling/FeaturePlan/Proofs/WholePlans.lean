/-
The plan of a whole feature.

Units are found in a roundabout way: the headers are reduced to their lines, the lines are sorted,
and each is looked up again.  If no two headers share a line nothing is lost on that way, and the
plan of a whole feature **lists every header exactly once**, in the order of the lines, with the
title that belongs to it, whatever steps claim the same lines.

Main definition: `Feature.headerUnits`, the units of the headers, taken from the headers themselves.

Main results:

* `Feature.plannedUnits_feature_perm` — the plan has the units of the headers;
* `Feature.strictly_ascending_plannedUnits` — in strictly ascending order;
* `collectPlan_lists_headers_once` — both, of what is collected.
-/

import FeaturePlan.Proofs.Planning
import FeaturePlan.Proofs.Targets

set_option relaxedAutoImplicit false
set_option autoImplicit false

namespace FeaturePlan

namespace Feature

variable {feature : Feature} {scenario outline : Scenario}

/-- One unit for each scenario and one for each outline, with its line and its title. -/
def headerUnits (feature : Feature) : List PlanUnit :=
  (feature.scenarios.map fun scenario =>
      ⟨.scenario, scenario.line, none, scenario.title, feature.title⟩) ++
    feature.outlines.map fun outline =>
      ⟨.outline, outline.line, none, outline.title, feature.title⟩

/-! ### The unit on the line of a header -/

theorem unitAt_of_scenario (hlines : (feature.allScenarios.map (·.line)).Nodup)
    (h : scenario ∈ feature.scenarios) :
    feature.unitAt scenario.line =
      ⟨.scenario, scenario.line, none, scenario.title, feature.title⟩ := by
  have htarget : feature.targetAt? scenario.line = some (.scenario scenario) :=
    targetAt?_line_of_mem_headerTargets hlines (scenario_mem_headerTargets h)
  rw [unitAt, htarget]

theorem unitAt_of_outline (hlines : (feature.allScenarios.map (·.line)).Nodup)
    (h : outline ∈ feature.outlines) :
    feature.unitAt outline.line =
      ⟨.outline, outline.line, none, outline.title, feature.title⟩ := by
  have htarget : feature.targetAt? outline.line = some (.outline outline) :=
    targetAt?_line_of_mem_headerTargets hlines (outline_mem_headerTargets h)
  rw [unitAt, htarget]

/-- Looking up the lines of all headers, one finds the headers. -/
theorem map_unitAt_line (hlines : (feature.allScenarios.map (·.line)).Nodup) :
    (feature.allScenarios.map (·.line)).map feature.unitAt = feature.headerUnits := by
  rw [List.map_map, allScenarios, List.map_append, headerUnits]
  congr 1
  · exact List.map_congr_left fun scenario h => unitAt_of_scenario hlines h
  · exact List.map_congr_left fun outline h => unitAt_of_outline hlines h

/-! ### The plan -/

theorem plannedUnits_feature_perm (hlines : (feature.allScenarios.map (·.line)).Nodup)
    (selection : Selection) :
    (feature.plannedUnits selection .feature).Perm feature.headerUnits := by
  rw [← map_unitAt_line hlines]
  exact feature.headerLines_perm.map feature.unitAt

theorem strictly_ascending_plannedUnits (hlines : (feature.allScenarios.map (·.line)).Nodup)
    (selection : Selection) :
    (feature.plannedUnits selection .feature).Pairwise fun a b => a.line < b.line := by
  have hdistinct : ((feature.plannedUnits selection .feature).map (·.line)).Nodup := by
    rw [map_line_plannedUnits]
    exact feature.headerLines_perm.nodup_iff.2 hlines
  exact pairwise_lt_of_nodup (feature.pairwise_plannedUnits_feature selection) hdistinct

end Feature

/-- **The plan of a whole feature lists every header exactly once.**  If no two headers share a
line, one unit is collected for each scenario and one for each outline and no other, and they come
in strictly ascending order of their lines. -/
theorem collectPlan_lists_headers_once (feature : Feature)
    (hsome : feature.scenarios ≠ [] ∨ feature.outlines ≠ [])
    (hlines : (feature.allScenarios.map (·.line)).Nodup) (selection : Selection) :
    ∃ units,
      (collectPlan feature selection .feature).result = .ok (some ⟨units, true⟩) ∧
      units.Perm feature.headerUnits ∧
      units.Pairwise fun a b => a.line < b.line :=
  ⟨feature.plannedUnits selection .feature,
    collectPlan_of_scenarios selection .feature (Feature.hasScenarios_iff.2 hsome),
    Feature.plannedUnits_feature_perm hlines selection,
    Feature.strictly_ascending_plannedUnits hlines selection⟩

/-- An outline between two scenarios that are listed out of order, one of which has a step on the
line of the outline. -/
theorem collectPlan_lists_headers_out_of_order :
    ∃ units,
      (collectPlan ⟨"Till", none, [⟨"a", 9, []⟩, ⟨"b", 2, [⟨"given", "x", 5⟩]⟩], [⟨"c", 5, []⟩]⟩
        ⟨1, 9, ""⟩ .feature).result = .ok (some ⟨units, true⟩) ∧
      units.Perm (Feature.headerUnits
        ⟨"Till", none, [⟨"a", 9, []⟩, ⟨"b", 2, [⟨"given", "x", 5⟩]⟩], [⟨"c", 5, []⟩]⟩) ∧
      (units.Pairwise fun a b => a.line < b.line) ∧
      units.map (fun unit => (unit.kind, unit.text)) =
        [(.scenario, "b"), (.outline, "c"), (.scenario, "a")] := by
  obtain ⟨units, hunits, hperm, hsorted⟩ := collectPlan_lists_headers_once
    ⟨"Till", none, [⟨"a", 9, []⟩, ⟨"b", 2, [⟨"given", "x", 5⟩]⟩], [⟨"c", 5, []⟩]⟩
    (Or.inl (List.cons_ne_nil _ _)) (by decide) ⟨1, 9, ""⟩
  refine ⟨units, hunits, hperm, hsorted, ?_⟩
  cases hunits
  rfl

end FeaturePlan
