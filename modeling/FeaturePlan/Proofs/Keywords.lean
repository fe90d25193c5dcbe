/-
Rewriting the step keywords of a feature, and nothing else.

`Feature.mapKeywords` is the **plain walk**: it visits every step of both lists and applies a
function to its keyword.  Two features are **alike** if nothing but keywords tells them apart: the
same entries stand in the same list in the same order, with the same titles, texts and lines.

Main definitions:

* `Scenario.mapKeywords`, `Feature.mapKeywords`;
* `Step.Alike`, `Scenario.Alike`, `Feature.Alike`.

Main results:

* `Feature.alike_mapKeywords` — the plain walk changes keywords only;
* `Feature.steps_mapKeywords`, `Feature.mapKeywords_eq_self_iff` — what it does to the steps, and
  when it does nothing.
-/

import FeaturePlan.Feature.Basic
import Mathlib.Data.List.Forall2

set_option relaxedAutoImplicit false
set_option autoImplicit false

namespace FeaturePlan

/-! ### The plain walk -/

/-- The scenario with a function applied to the keyword of each step. -/
def Scenario.mapKeywords (f : String → String) (scenario : Scenario) : Scenario :=
  { scenario with steps := scenario.steps.map fun step => step.withKeyword (f step.keyword) }

/-- The feature with a function applied to the keyword of each step of both lists. -/
def Feature.mapKeywords (f : String → String) (feature : Feature) : Feature :=
  { feature with
    scenarios := feature.scenarios.map (Scenario.mapKeywords f)
    outlines := feature.outlines.map (Scenario.mapKeywords f) }

/-- A scenario with no keyword to change stays as it is. -/
theorem Scenario.mapKeywords_eq_self {f : String → String} {scenario : Scenario}
    (h : ∀ step ∈ scenario.steps, f step.keyword = step.keyword) :
    scenario.mapKeywords f = scenario := by
  have hsteps : (scenario.steps.map fun step => step.withKeyword (f step.keyword)) =
      scenario.steps.map id := by
    refine List.map_congr_left fun step hstep => ?_
    rw [h step hstep]
    rfl
  rw [mapKeywords, hsteps, List.map_id]

theorem Feature.allScenarios_mapKeywords (f : String → String) (feature : Feature) :
    (feature.mapKeywords f).allScenarios = feature.allScenarios.map (Scenario.mapKeywords f) :=
  List.map_append.symm

/-- The steps of the rewritten feature are the rewritten steps. -/
theorem Feature.steps_mapKeywords (f : String → String) (feature : Feature) :
    (feature.mapKeywords f).steps =
      feature.steps.map fun step => step.withKeyword (f step.keyword) := by
  simp only [steps, allScenarios_mapKeywords, List.map_flatMap, List.flatMap_map,
    Scenario.mapKeywords]

/-- A walk leaves the feature as it is iff it changes the keyword of no step. -/
theorem Feature.mapKeywords_eq_self_iff {f : String → String} {feature : Feature} :
    feature.mapKeywords f = feature ↔ ∀ step ∈ feature.steps, f step.keyword = step.keyword := by
  constructor
  · intro h step hstep
    have hsteps : (feature.steps.map fun step => step.withKeyword (f step.keyword)) =
        feature.steps.map id := by
      rw [← steps_mapKeywords, h, List.map_id]
    exact congrArg Step.keyword (List.map_inj_left.1 hsteps step hstep)
  · intro h
    have hscenario : ∀ scenario ∈ feature.allScenarios, scenario.mapKeywords f = scenario :=
      fun scenario hscenario => Scenario.mapKeywords_eq_self fun step hstep =>
        h step (List.mem_flatMap.2 ⟨scenario, hscenario, hstep⟩)
    have hscenarios : feature.scenarios.map (Scenario.mapKeywords f) = feature.scenarios.map id :=
      List.map_congr_left fun scenario hmem => hscenario scenario (List.mem_append_left _ hmem)
    have houtlines : feature.outlines.map (Scenario.mapKeywords f) = feature.outlines.map id :=
      List.map_congr_left fun outline hmem => hscenario outline (List.mem_append_right _ hmem)
    rw [mapKeywords, hscenarios, houtlines, List.map_id, List.map_id]

/-- A walk that changes no keyword leaves the feature as it is. -/
theorem Feature.mapKeywords_id (feature : Feature) : feature.mapKeywords id = feature :=
  mapKeywords_eq_self_iff.2 fun _ _ => rfl

/-! ### What is left of a feature apart from its keywords -/

/-- Two steps that differ in nothing but their keywords. -/
structure Step.Alike (a b : Step) : Prop where
  text : a.text = b.text
  line : a.line = b.line

/-- Two scenarios that differ in nothing but the keywords of their steps. -/
structure Scenario.Alike (a b : Scenario) : Prop where
  title : a.title = b.title
  line : a.line = b.line
  steps : List.Forall₂ Step.Alike a.steps b.steps

/-- Two features that differ in nothing but the keywords of their steps. -/
structure Feature.Alike (a b : Feature) : Prop where
  title : a.title = b.title
  language : a.language = b.language
  scenarios : List.Forall₂ Scenario.Alike a.scenarios b.scenarios
  outlines : List.Forall₂ Scenario.Alike a.outlines b.outlines

theorem Scenario.alike_mapKeywords (f : String → String) (scenario : Scenario) :
    scenario.Alike (scenario.mapKeywords f) where
  title := rfl
  line := rfl
  steps := List.forall₂_map_right_iff.2 (List.forall₂_same.2 fun _ _ => ⟨rfl, rfl⟩)

/-- The plain walk changes keywords only. -/
theorem Feature.alike_mapKeywords (f : String → String) (feature : Feature) :
    feature.Alike (feature.mapKeywords f) where
  title := rfl
  language := rfl
  scenarios := List.forall₂_map_right_iff.2
    (List.forall₂_same.2 fun scenario _ => scenario.alike_mapKeywords f)
  outlines := List.forall₂_map_right_iff.2
    (List.forall₂_same.2 fun outline _ => outline.alike_mapKeywords f)

end FeaturePlan
