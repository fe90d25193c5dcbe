/-
The unit that a line of a feature gets.

Headers go before steps, so a **header line** gets the unit of a header, whatever steps claim it,
and any other line gets the unit of a step or an empty one.  Cutting the feature down to a selection
takes headers away, but none of those on a selected line: on a header line in the selection, the cut
feature has the same unit as the whole one.

Main definition: `Feature.headerTargetAt?`, the part of a look-up that is about headers.

Main results:

* `Feature.headerTargetAt?_eq_none_iff`, `Feature.targetAt?_of_mem`, `Feature.targetAt?_of_not_mem`
  — where headers decide and where steps do;
* `Feature.kind_unitAt_of_mem`, `Feature.kind_unitAt_of_not_mem` — the kinds of the units;
* `Feature.unitAt_restrict`, `Feature.unitAt_shown` — the units of the cut feature.
-/

import FeaturePlan.Plan.Unit
import FeaturePlan.Proofs.Headers

set_option relaxedAutoImplicit false
set_option autoImplicit false

namespace FeaturePlan

variable {feature : Feature} {scenarios : List Scenario} {selection : Selection} {line : Nat}
  {target : Target}

/-! ### Looking for a header -/

theorem headerAt?_eq_none_iff :
    headerAt? scenarios line = none ↔ ∀ scenario ∈ scenarios, scenario.line ≠ line := by
  simp [headerAt?]

/-- On a line in the selection, cutting down takes no header away. -/
theorem headerAt?_restrictScenarios (h : selection.contains line = true) :
    headerAt? (restrictScenarios scenarios selection) line = headerAt? scenarios line := by
  rw [headerAt?, restrictScenarios, List.find?_filter, headerAt?]
  congr 1
  funext scenario
  -- a scenario that is found stands on the line, and so it is kept
  by_cases hline : scenario.line = line
  · simp [hline, h]
  · simp [hline]

namespace Feature

/-- The header that the feature has on the given line. -/
def headerTargetAt? (feature : Feature) (line : Nat) : Option Target :=
  ((headerAt? feature.scenarios line).map Target.scenario).or
    ((headerAt? feature.outlines line).map Target.outline)

theorem headerTargetAt?_eq_none_iff :
    feature.headerTargetAt? line = none ↔ line ∉ feature.headerLines := by
  rw [headerTargetAt?, Option.or_eq_none_iff, Option.map_eq_none_iff, Option.map_eq_none_iff,
    headerAt?_eq_none_iff, headerAt?_eq_none_iff, ← List.forall_mem_append, mem_headerLines]
  simp only [not_exists, not_and, allScenarios, ne_eq]

theorem headerTargetAt?_restrict (h : selection.contains line = true) :
    (feature.restrict selection).headerTargetAt? line = feature.headerTargetAt? line := by
  simp only [headerTargetAt?, restrict, headerAt?_restrictScenarios h]

theorem header_of_headerTargetAt? (h : feature.headerTargetAt? line = some target) :
    (∃ scenario, target = .scenario scenario) ∨ ∃ outline, target = .outline outline := by
  rw [headerTargetAt?, Option.or_eq_some_iff] at h
  rcases h with h | ⟨-, h⟩
  · obtain ⟨scenario, -, rfl⟩ := Option.map_eq_some_iff.1 h
    exact Or.inl ⟨scenario, rfl⟩
  · obtain ⟨outline, -, rfl⟩ := Option.map_eq_some_iff.1 h
    exact Or.inr ⟨outline, rfl⟩

/-! ### Headers go before steps -/

theorem targetAt?_eq_or (feature : Feature) (line : Nat) :
    feature.targetAt? line =
      (feature.headerTargetAt? line).or (ownedStepAt? feature.allScenarios line) := by
  rw [targetAt?, headerTargetAt?, Option.or_assoc]

/-- On a header line the headers decide. -/
theorem targetAt?_of_mem (h : line ∈ feature.headerLines) :
    feature.targetAt? line = feature.headerTargetAt? line := by
  rw [targetAt?_eq_or]
  cases hheader : feature.headerTargetAt? line with
  | none => exact absurd h (headerTargetAt?_eq_none_iff.1 hheader)
  | some target => rfl

/-- On any other line the steps do. -/
theorem targetAt?_of_not_mem (h : line ∉ feature.headerLines) :
    feature.targetAt? line = ownedStepAt? feature.allScenarios line := by
  rw [targetAt?_eq_or, headerTargetAt?_eq_none_iff.2 h, Option.none_or]

end Feature

theorem step_of_ownedStepAt? (h : ownedStepAt? scenarios line = some target) :
    ∃ owner step, target = .step owner step := by
  obtain ⟨owner, -, howner⟩ := List.exists_of_findSome?_eq_some h
  obtain ⟨step, -, rfl⟩ := Option.map_eq_some_iff.1 howner
  exact ⟨owner, step, rfl⟩

/-! ### Units -/

namespace Feature

@[simp] theorem line_unitAt (feature : Feature) (line : Nat) :
    (feature.unitAt line).line = line := by
  rw [unitAt]
  split <;> rfl

/-- A header line gets the unit of a scenario or an outline. -/
theorem kind_unitAt_of_mem (h : line ∈ feature.headerLines) :
    (feature.unitAt line).kind = .scenario ∨ (feature.unitAt line).kind = .outline := by
  have htarget := targetAt?_of_mem h
  cases hheader : feature.headerTargetAt? line with
  | none => exact absurd h (headerTargetAt?_eq_none_iff.1 hheader)
  | some target =>
      rw [hheader] at htarget
      rcases header_of_headerTargetAt? hheader with ⟨scenario, rfl⟩ | ⟨outline, rfl⟩
      · exact Or.inl (by rw [unitAt, htarget])
      · exact Or.inr (by rw [unitAt, htarget])

/-- A line without a header gets the unit of a step or an empty one. -/
theorem kind_unitAt_of_not_mem (h : line ∉ feature.headerLines) :
    (feature.unitAt line).kind = .step ∨ (feature.unitAt line).kind = .empty := by
  have htarget := targetAt?_of_not_mem h
  cases hstep : ownedStepAt? feature.allScenarios line with
  | none => exact Or.inr (by rw [unitAt, htarget, hstep])
  | some target =>
      obtain ⟨owner, step, rfl⟩ := step_of_ownedStepAt? hstep
      exact Or.inl (by rw [unitAt, htarget, hstep])

/-- The lines with an empty unit are those on which nothing is found. -/
theorem kind_unitAt_eq_empty_iff :
    (feature.unitAt line).kind = .empty ↔ feature.targetAt? line = none := by
  rw [unitAt]
  split <;> simp [*]

/-- On a header line in the selection, the cut feature has the unit of the whole one. -/
theorem unitAt_restrict (hline : line ∈ feature.headerLines)
    (h : selection.contains line = true) :
    (feature.restrict selection).unitAt line = feature.unitAt line := by
  have hkept : line ∈ (feature.restrict selection).headerLines := by
    rw [headerLines_restrict]
    exact List.mem_filter.2 ⟨hline, h⟩
  -- on a line without header the two could differ: the cut feature lacks the steps of what was cut
  have htarget : (feature.restrict selection).targetAt? line = feature.targetAt? line := by
    rw [targetAt?_of_mem hkept, targetAt?_of_mem hline, headerTargetAt?_restrict h]
  rw [unitAt, unitAt, htarget]
  rfl

/-- A line that is asked for has the same unit in what the generator sees and in the feature. -/
theorem unitAt_shown {scope : Scope} (h : line ∈ feature.targetLines selection scope) :
    (feature.shown selection scope).unitAt line = feature.unitAt line := by
  cases scope with
  | feature => rfl
  | scenarios =>
      rw [targetLines, headerLines_restrict] at h
      obtain ⟨hline, hcontains⟩ := List.mem_filter.1 h
      exact unitAt_restrict hline hcontains
  | steps => rfl

end Feature

end FeaturePlan
