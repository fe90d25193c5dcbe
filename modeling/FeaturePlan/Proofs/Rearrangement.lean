/-
The order of the tree plays no part.

Everything that a plan is made of is found by going through lists from the front: the header on a
line, the step on a line, whether there is a header in a selection.  If no two headers share a line
and no two steps do, each of these searches has **one thing to find** at most, and so it finds the
same in every order of the scenarios and outlines.  The lines to look at are sorted, so they come in
the same order too.  A step may stand on the line of a header: headers are looked for first.

Main definitions:

* `Feature.Rearranged`, two features that differ in nothing but the order of their entries;
* `Feature.DistinctLines`, the features in which a line has at most one header and one step.

Main results:

* `Feature.Rearranged.headerLines_eq`, `Feature.Rearranged.unitAt_eq` — header lines and units;
* `plans_ignore_tree_order` — what is collected, and what a selection means.
-/

import FeaturePlan.Proofs.Planning
import FeaturePlan.Proofs.Scopes
import FeaturePlan.Proofs.Targets

set_option relaxedAutoImplicit false
set_option autoImplicit false

namespace FeaturePlan

/-- Two features with the same title, scenarios and outlines, the latter two in any order. -/
structure Feature.Rearranged (a b : Feature) : Prop where
  title : a.title = b.title
  scenarios : a.scenarios.Perm b.scenarios
  outlines : a.outlines.Perm b.outlines

/-- No two headers share a line, and no two steps do. -/
structure Feature.DistinctLines (feature : Feature) : Prop where
  headers : (feature.allScenarios.map (·.line)).Nodup
  steps : (feature.steps.map (·.line)).Nodup

/-- A search for the only target on a line does not depend on the order of the targets. -/
theorem find?_line_eq_of_perm {entries others : List Target} (h : entries.Perm others)
    (hlines : (entries.map Target.line).Nodup) (line : Nat) :
    (entries.find? fun target => target.line == line) =
      others.find? fun target => target.line == line := by
  have hothers : (others.map Target.line).Nodup := (h.map Target.line).nodup_iff.1 hlines
  refine Option.ext fun target => ?_
  rw [find?_line_eq_some_iff hlines, find?_line_eq_some_iff hothers, h.mem_iff]

namespace Feature.Rearranged

variable {a b : Feature} {selection : Selection}

theorem allScenarios (h : a.Rearranged b) : a.allScenarios.Perm b.allScenarios :=
  h.scenarios.append h.outlines

theorem headerTargets (h : a.Rearranged b) : a.headerTargets.Perm b.headerTargets :=
  (h.scenarios.map Target.scenario).append (h.outlines.map Target.outline)

theorem stepTargets (h : a.Rearranged b) : a.stepTargets.Perm b.stepTargets :=
  h.allScenarios.flatMap_right _

/-! ### Lines -/

/-- Sorting takes the order of the headers away. -/
theorem headerLines_eq (h : a.Rearranged b) : a.headerLines = b.headerLines := by
  have hperm : a.headerLines.Perm b.headerLines :=
    a.headerLines_perm.trans ((h.allScenarios.map (·.line)).trans b.headerLines_perm.symm)
  exact hperm.eq_of_pairwise' a.pairwise_headerLines b.pairwise_headerLines

theorem targetLines_eq (h : a.Rearranged b) (selection : Selection) (scope : Scope) :
    a.targetLines selection scope = b.targetLines selection scope := by
  cases scope with
  | feature => exact h.headerLines_eq
  | scenarios =>
      rw [targetLines, targetLines, headerLines_restrict, headerLines_restrict, h.headerLines_eq]
  | steps => rfl

theorem hasScenarios_eq (h : a.Rearranged b) : a.hasScenarios = b.hasScenarios := by
  rw [Bool.eq_iff_iff, hasScenarios_iff_ne_nil, hasScenarios_iff_ne_nil, ne_eq, ne_eq,
    ← headerLines_eq_nil_iff, ← headerLines_eq_nil_iff, h.headerLines_eq]

theorem hasHeaderIn_iff (h : a.Rearranged b) :
    a.HasHeaderIn selection ↔ b.HasHeaderIn selection := by
  rw [Feature.hasHeaderIn_iff, Feature.hasHeaderIn_iff, h.headerLines_eq]

/-! ### Units -/

/-- What stands on a line is found in every order. -/
theorem targetAt?_eq (h : a.Rearranged b) (hlines : a.DistinctLines) (line : Nat) :
    a.targetAt? line = b.targetAt? line := by
  have hheaders : (a.headerTargets.map Target.line).Nodup := by
    rw [map_line_headerTargets]
    exact hlines.headers
  have hsteps : (a.stepTargets.map Target.line).Nodup := by
    rw [map_line_stepTargets]
    exact hlines.steps
  rw [targetAt?_eq_or, targetAt?_eq_or, headerTargetAt?_eq_find?, headerTargetAt?_eq_find?,
    ownedStepAt?_eq_find?, ownedStepAt?_eq_find?, find?_line_eq_of_perm h.headerTargets hheaders,
    find?_line_eq_of_perm h.stepTargets hsteps]

theorem unitAt_eq (h : a.Rearranged b) (hlines : a.DistinctLines) (line : Nat) :
    a.unitAt line = b.unitAt line := by
  rw [unitAt, h.targetAt?_eq hlines, h.title, unitAt]

theorem plannedUnits_eq (h : a.Rearranged b) (hlines : a.DistinctLines) (selection : Selection)
    (scope : Scope) : a.plannedUnits selection scope = b.plannedUnits selection scope := by
  rw [plannedUnits_eq_map_unitAt, plannedUnits_eq_map_unitAt, h.targetLines_eq,
    funext (h.unitAt_eq hlines)]

end Feature.Rearranged

/-- **Plans do not depend on the order of the tree.**  If no two headers and no two steps share a
line, the same is collected for a selection in whatever order the scenarios and outlines stand, and
the selection means the same under both heuristics. -/
theorem plans_ignore_tree_order (a b : Feature) (h : a.Rearranged b) (hlines : a.DistinctLines)
    (selection : Selection) :
    (∀ scope, (collectPlan a selection scope).result = (collectPlan b selection scope).result) ∧
    ∀ heuristic : Heuristic, heuristic.scope selection a = heuristic.scope selection b := by
  constructor
  · intro scope
    cases hsome : a.hasScenarios with
    | false =>
        rw [collectPlan_of_no_scenarios selection scope hsome,
          collectPlan_of_no_scenarios selection scope (h.hasScenarios_eq ▸ hsome)]
    | true =>
        rw [collectPlan_of_scenarios selection scope hsome,
          collectPlan_of_scenarios selection scope (h.hasScenarios_eq ▸ hsome),
          h.plannedUnits_eq hlines]
  · intro heuristic
    exact Heuristic.scope_congr h.hasHeaderIn_iff

/-- A feature with its scenarios out of order and a step on the line of an outline. -/
def outOfOrder : Feature :=
  ⟨"Till", none, [⟨"a", 9, [⟨"given", "x", 10⟩]⟩, ⟨"b", 2, [⟨"when", "y", 5⟩]⟩], [⟨"c", 5, []⟩]⟩

/-- What is collected for the outline and one of the scenarios, whichever comes first. -/
theorem plans_ignore_tree_order_reversed :
    (collectPlan outOfOrder ⟨5, 10, ""⟩ .scenarios).result =
        .ok (some ⟨[⟨.outline, 5, none, "c", "Till"⟩, ⟨.scenario, 9, none, "a", "Till"⟩], false⟩) ∧
    (collectPlan { outOfOrder with scenarios := outOfOrder.scenarios.reverse } ⟨5, 10, ""⟩
        .scenarios).result = (collectPlan outOfOrder ⟨5, 10, ""⟩ .scenarios).result ∧
    Heuristic.structural.scope ⟨5, 10, ""⟩
        { outOfOrder with scenarios := outOfOrder.scenarios.reverse } = .scenarios := by
  obtain ⟨hplan, hscope⟩ := plans_ignore_tree_order outOfOrder
    { outOfOrder with scenarios := outOfOrder.scenarios.reverse }
    ⟨rfl, (List.reverse_perm _).symm, List.Perm.refl _⟩ ⟨by decide, by decide⟩ ⟨5, 10, ""⟩
  refine ⟨rfl, (hplan .scenarios).symm, ?_⟩
  rw [← hscope .structural]
  rfl

end FeaturePlan
