/-
Plans under the structural heuristic.

The structural heuristic means scenarios where a selection holds a header and steps where it holds
none.  Its plans therefore **never mix** headers and steps: a header outside the selection cannot
turn up among steps, and a header that is planned is still found in the feature that was cut down.
Translation moves no header, so the same goes for the plan that a run has rendered.

Main definition: `Unmixed`, the plans that a selection allows.

Main results:

* `Feature.unmixed_plannedUnits` — the planned units are of headers or of steps;
* `unmixed_structural_plans` — so is what is collected, and what a planner has rendered.
-/

import FeaturePlan.Proofs.Planning
import FeaturePlan.Proofs.Scopes

set_option relaxedAutoImplicit false
set_option autoImplicit false

namespace FeaturePlan

variable {feature : Feature} {selection : Selection} {scope : Scope} {unit : PlanUnit}

/-- The units are all of headers or all of steps, as the headers in the selection demand. -/
inductive Unmixed (feature : Feature) (selection : Selection) (units : List PlanUnit) : Prop
  /-- For a whole feature, and where a header is selected, there are units, all of headers. -/
  | headers (hheader : selection.first = 1 ∨ feature.HasHeaderIn selection) (hsome : units ≠ [])
      (hkinds : ∀ unit ∈ units, unit.kind = .scenario ∨ unit.kind = .outline)
      (hlines : selection.first ≠ 1 →
        ∀ unit ∈ units, selection.first ≤ unit.line ∧ unit.line ≤ selection.last)
  /-- Elsewhere each line of the selection has one unit, of a step or empty. -/
  | steps (hfirst : selection.first ≠ 1) (hheader : ¬feature.HasHeaderIn selection)
      (hkinds : ∀ unit ∈ units, unit.kind = .step ∨ unit.kind = .empty)
      (hsorted : (units.map (·.line)).Pairwise (· < ·))
      (hlines : ∀ line, line ∈ units.map (·.line) ↔
        selection.first ≤ line ∧ line ≤ selection.last)

namespace Feature

/-! ### The kinds of planned units -/

theorem plannedUnits_eq_nil_iff :
    feature.plannedUnits selection scope = [] ↔ feature.targetLines selection scope = [] :=
  List.map_eq_nil_iff

/-- Unless steps are planned, all units are of headers. -/
theorem kind_of_mem_plannedUnits (hscope : scope ≠ .steps)
    (h : unit ∈ feature.plannedUnits selection scope) :
    unit.kind = .scenario ∨ unit.kind = .outline := by
  obtain ⟨line, hline, rfl⟩ := List.mem_map.1 h
  -- the lines asked for are the header lines of the feature in which they are looked up
  cases scope with
  | feature => exact kind_unitAt_of_mem hline
  | scenarios => exact kind_unitAt_of_mem hline
  | steps => exact absurd rfl hscope

/-- If the selection holds no header, the units planned for its lines are of steps or empty. -/
theorem kind_of_mem_plannedUnits_steps (hheader : ¬feature.HasHeaderIn selection)
    (h : unit ∈ feature.plannedUnits selection .steps) :
    unit.kind = .step ∨ unit.kind = .empty := by
  obtain ⟨line, hline, rfl⟩ := List.mem_map.1 h
  refine kind_unitAt_of_not_mem fun hmem => hheader ?_
  exact hasHeaderIn_iff.2 ⟨line, hmem, Selection.contains_iff.2 (mem_targetLines_steps.1 hline)⟩

/-- The units planned for the selected scenarios lie in the selection. -/
theorem line_of_mem_plannedUnits_scenarios
    (h : unit ∈ feature.plannedUnits selection .scenarios) :
    selection.first ≤ unit.line ∧ unit.line ≤ selection.last := by
  rw [plannedUnits_scenarios] at h
  exact of_decide_eq_true (List.mem_filter.1 h).2

/-! ### Under the structural heuristic -/

/-- The planned units of a feature with scenarios are of headers or of steps. -/
theorem unmixed_plannedUnits (h : feature.hasScenarios = true) (selection : Selection) :
    Unmixed feature selection
      (feature.plannedUnits selection (Heuristic.structural.scope selection feature)) := by
  by_cases hfirst : selection.first = 1
  · rw [Heuristic.scope_eq_feature_iff.2 hfirst]
    refine .headers (Or.inl hfirst) ?_ (fun unit => kind_of_mem_plannedUnits (by decide))
      fun hne => absurd hfirst hne
    exact mt plannedUnits_eq_nil_iff.1 (headerLines_ne_nil h)
  rw [Heuristic.scope]
  by_cases hheader : feature.HasHeaderIn selection
  · rw [Selection.scopeByStructure_of_header hfirst hheader]
    refine .headers (Or.inr hheader) ?_ (fun unit => kind_of_mem_plannedUnits (by decide))
      fun _ unit => line_of_mem_plannedUnits_scenarios
    -- the header in the selection is one of the lines asked for
    intro hnil
    exact targetLines_scenarios_eq_nil_iff.1 (plannedUnits_eq_nil_iff.1 hnil) hheader
  · rw [Selection.scopeByStructure_of_no_header hfirst hheader]
    refine .steps hfirst hheader (fun unit => kind_of_mem_plannedUnits_steps hheader) ?_ ?_
    · rw [map_line_plannedUnits]
      exact List.pairwise_lt_range'
    · intro line
      rw [map_line_plannedUnits]
      exact mem_targetLines_steps

end Feature

/-- **Under the structural heuristic, plans never mix headers and steps.**  This holds of what is
collected in a feature with scenarios, and of the units of the translated feature for whose lines a
planner asks and which it has rendered, if there are any. -/
theorem unmixed_structural_plans :
    (∀ (feature : Feature) (selection : Selection),
      feature.scenarios ≠ [] ∨ feature.outlines ≠ [] →
      ∃ units,
        (collectPlan feature selection (Heuristic.structural.scope selection feature)).result =
          .ok (some ⟨units, selection.first = 1⟩) ∧
        Unmixed feature selection units) ∧
    ∀ (π φ : Type) (lexicon : Lexicon) (parse : String → Except π Feature)
      (format : List PlanUnit → Bool → Except φ String) (text : String) (selection : Selection)
      (parsed : Feature), parse text = .ok parsed →
      parsed.scenarios ≠ [] ∨ parsed.outlines ≠ [] →
      ∃ shown units,
        ((planner lexicon parse format .structural).run text selection).calls =
          units.map (fun unit => Entry.asked shown unit.line) ++
            (if units = [] then [] else [Entry.rendered units (selection.first = 1)]) ∧
        Unmixed (lexicon.translateDeclared (declaredLanguage? text) parsed).1 selection units := by
  constructor
  · intro feature selection hsome
    have h : feature.hasScenarios = true := Feature.hasScenarios_iff.2 hsome
    refine ⟨_, ?_, feature.unmixed_plannedUnits h selection⟩
    rw [collectPlan_of_scenarios selection _ h]
    simp only [Heuristic.scope_eq_feature_iff]
  · intro π φ lexicon parse format text selection parsed hparse hsome
    obtain ⟨⟨feature, notices⟩, htranslate⟩ :
        ∃ pair, lexicon.translateDeclared (declaredLanguage? text) parsed = pair := ⟨_, rfl⟩
    -- translation may replace every keyword, but it leaves the scenarios where they are
    have hlines := lexicon.map_line_translateDeclared (declaredLanguage? text) parsed
    rw [htranslate] at hlines
    have h : feature.hasScenarios = true := by
      rw [Feature.hasScenarios_iff_ne_nil, ne_eq, Feature.allScenarios_eq_nil_congr hlines]
      exact Feature.hasScenarios_iff_ne_nil.1 (Feature.hasScenarios_iff.2 hsome)
    rw [htranslate]
    refine ⟨feature.shown selection (Heuristic.structural.scope selection feature), _, ?_,
      feature.unmixed_plannedUnits h selection⟩
    rw [calls_planner format hparse htranslate h rfl]
    simp only [Heuristic.scope_eq_feature_iff]

/-- A selection between headers, one that ends on the outline, and a run that translates first. -/
theorem unmixed_plans_around_outline :
    (∃ units,
      (collectPlan ⟨"Till", none, [⟨"a", 3, [⟨"given", "x", 4⟩]⟩], [⟨"b", 6, []⟩]⟩ ⟨4, 5, ""⟩
        .steps).result = .ok (some ⟨units, false⟩) ∧
      Unmixed ⟨"Till", none, [⟨"a", 3, [⟨"given", "x", 4⟩]⟩], [⟨"b", 6, []⟩]⟩ ⟨4, 5, ""⟩ units ∧
      units.map (·.kind) = [.step, .empty]) ∧
    (∃ units,
      (collectPlan ⟨"Till", none, [⟨"a", 3, [⟨"given", "x", 4⟩]⟩], [⟨"b", 6, []⟩]⟩ ⟨4, 6, ""⟩
        .scenarios).result = .ok (some ⟨units, false⟩) ∧
      Unmixed ⟨"Till", none, [⟨"a", 3, [⟨"given", "x", 4⟩]⟩], [⟨"b", 6, []⟩]⟩ ⟨4, 6, ""⟩ units ∧
      units.map (·.kind) = [.outline]) ∧
    ∃ shown units,
      (planWith (fun _ => (.ok ⟨"Till", none, [⟨"a", 3, [⟨"soit", "x", 4⟩]⟩], []⟩ :
          Except Empty Feature)) Json.write "# language: fr" ⟨3, 4, ""⟩
          ⟨.info, .structural, .json⟩).calls =
        units.map (fun unit => Entry.asked shown unit.line) ++
          (if units = [] then [] else [Entry.rendered units false]) ∧
      Unmixed (Lexicon.builtin.translateDeclared (declaredLanguage? "# language: fr")
          ⟨"Till", none, [⟨"a", 3, [⟨"soit", "x", 4⟩]⟩], []⟩).1 ⟨3, 4, ""⟩ units := by
  refine ⟨?_, ?_, ?_⟩
  · obtain ⟨units, hunits, hunmixed⟩ := unmixed_structural_plans.1
      ⟨"Till", none, [⟨"a", 3, [⟨"given", "x", 4⟩]⟩], [⟨"b", 6, []⟩]⟩ ⟨4, 5, ""⟩
      (Or.inl (List.cons_ne_nil _ _))
    refine ⟨units, hunits, hunmixed, ?_⟩
    cases hunits
    rfl
  · obtain ⟨units, hunits, hunmixed⟩ := unmixed_structural_plans.1
      ⟨"Till", none, [⟨"a", 3, [⟨"given", "x", 4⟩]⟩], [⟨"b", 6, []⟩]⟩ ⟨4, 6, ""⟩
      (Or.inl (List.cons_ne_nil _ _))
    refine ⟨units, hunits, hunmixed, ?_⟩
    cases hunits
    rfl
  · rw [planWith, planTools_eq_planner]
    exact unmixed_structural_plans.2 Empty Empty .builtin _ _ "# language: fr" ⟨3, 4, ""⟩
      ⟨"Till", none, [⟨"a", 3, [⟨"soit", "x", 4⟩]⟩], []⟩ rfl (Or.inl (List.cons_ne_nil _ _))

end FeaturePlan
