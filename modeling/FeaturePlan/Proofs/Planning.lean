/-
The plans of ranges of lines.

The generator of plans never refuses, so the collection of a feature with scenarios is the list of
the units of its lines.  Two laws say that a plan depends on its range as it should.  The plan of
the scenarios in a range is **what the whole plan has in the range**, though the one looks up its
lines in the cut feature and the other in the whole one.  And the plan of a range is **the plan of
its front followed by the plan of its back**, wherever the range is cut.

Main definitions:

* `planGenerator`, `collectPlan`, collecting with the generator of plans;
* `Feature.plannedUnits`, the units of the lines that a selection asks for;
* `planner`, a toolchain with the generator of plans.

Main results:

* `collectPlan_of_scenarios`, `collectPlan_of_no_scenarios` — what collecting a plan comes to;
* `collectPlan_scenarios_eq_filter` — choosing scenarios before collecting and after it agree;
* `collectPlan_append` — a plan is that of its two parts;
* `calls_planner` — the helpers in a run of a planner get to see the units of the translated
  feature.
-/

import FeaturePlan.Plan
import FeaturePlan.Proofs.PlanUnits

set_option relaxedAutoImplicit false
set_option autoImplicit false

namespace FeaturePlan

variable {feature : Feature} {selection : Selection} {scope : Scope}

/-! ### Collecting plans -/

/-- The generator of plans: it looks up what stands on a line. -/
def planGenerator (feature : Feature) (line : Nat) : Except Empty PlanUnit :=
  .ok (feature.unitAt line)

/-- Collects the plan of a selection. -/
def collectPlan (feature : Feature) (selection : Selection) (scope : Scope) :
    Run PlanUnit Empty (Option (Collection PlanUnit)) :=
  collect planGenerator feature selection scope

/-- The units of the lines that a selection asks for. -/
def Feature.plannedUnits (feature : Feature) (selection : Selection) (scope : Scope) :
    List PlanUnit :=
  (feature.targetLines selection scope).map (feature.shown selection scope).unitAt

theorem collectPlan_of_scenarios (selection : Selection) (scope : Scope)
    (h : feature.hasScenarios = true) :
    (collectPlan feature selection scope).result =
      .ok (some ⟨feature.plannedUnits selection scope, scope = .feature⟩) := by
  refine (collect_of_answered h ?_).2
  rw [Feature.plannedUnits, List.forall₂_map_right_iff]
  exact List.forall₂_same.2 fun _ _ => rfl

theorem collectPlan_of_no_scenarios (selection : Selection) (scope : Scope)
    (h : feature.hasScenarios = false) : (collectPlan feature selection scope).result = .ok none :=
  (collect_of_no_scenarios planGenerator selection scope h).2

namespace Feature

/-- The units of a plan stand for the lines asked for. -/
theorem map_line_plannedUnits (feature : Feature) (selection : Selection) (scope : Scope) :
    (feature.plannedUnits selection scope).map (·.line) = feature.targetLines selection scope := by
  rw [plannedUnits, List.map_map]
  exact List.map_id'' (fun line => line_unitAt _ line) _

/-! ### Scenarios before and after collecting -/

/-- The units planned are those of the feature itself, though the generator may see it cut down. -/
theorem plannedUnits_eq_map_unitAt (feature : Feature) (selection : Selection) (scope : Scope) :
    feature.plannedUnits selection scope =
      (feature.targetLines selection scope).map feature.unitAt :=
  List.map_congr_left fun _ hline => unitAt_shown hline

/-- The plan of the selected scenarios has those units of the whole plan whose lines are
selected. -/
theorem plannedUnits_scenarios (feature : Feature) (selection : Selection) :
    feature.plannedUnits selection .scenarios =
      (feature.plannedUnits selection .feature).filter fun unit =>
        selection.first ≤ unit.line ∧ unit.line ≤ selection.last := by
  have hlines : (fun unit : PlanUnit =>
      decide (selection.first ≤ unit.line ∧ unit.line ≤ selection.last)) ∘ feature.unitAt =
        selection.contains := by
    funext line
    simp [Selection.contains]
  -- both sides look lines up in the whole feature, so only the lines are to be compared
  rw [plannedUnits_eq_map_unitAt, plannedUnits_eq_map_unitAt, List.filter_map, hlines]
  exact congrArg (List.map feature.unitAt) (feature.headerLines_restrict selection)

end Feature

/-- **Choosing scenarios before collecting and after it agree.**  The plan of the scenarios in a
selection, taken from the cut feature, has the units of the whole plan whose lines are selected, in
their order; and there is no plan for the one iff there is none for the other. -/
theorem collectPlan_scenarios_eq_filter (feature : Feature) (selection : Selection) :
    (feature.scenarios = [] ∧ feature.outlines = [] ∧
      (collectPlan feature selection .feature).result = .ok none ∧
      (collectPlan feature selection .scenarios).result = .ok none) ∨
    ∃ units,
      (collectPlan feature selection .feature).result = .ok (some ⟨units, true⟩) ∧
      (collectPlan feature selection .scenarios).result =
        .ok (some ⟨units.filter fun unit =>
          selection.first ≤ unit.line ∧ unit.line ≤ selection.last, false⟩) := by
  cases h : feature.hasScenarios with
  | false =>
      obtain ⟨hscenarios, houtlines⟩ := Feature.hasScenarios_eq_false_iff.1 h
      exact Or.inl ⟨hscenarios, houtlines, collectPlan_of_no_scenarios selection .feature h,
        collectPlan_of_no_scenarios selection .scenarios h⟩
  | true =>
      refine Or.inr ⟨feature.plannedUnits selection .feature,
        collectPlan_of_scenarios selection .feature h, ?_⟩
      rw [← feature.plannedUnits_scenarios]
      exact collectPlan_of_scenarios selection .scenarios h

/-! ### Cutting a range -/

namespace Feature

/-- The units of a whole plan are in the order of their lines. -/
theorem pairwise_plannedUnits_feature (feature : Feature) (selection : Selection) :
    (feature.plannedUnits selection .feature).Pairwise fun a b => a.line ≤ b.line := by
  have hlines : ((feature.plannedUnits selection .feature).map (·.line)).Pairwise (· ≤ ·) := by
    rw [map_line_plannedUnits]
    exact feature.pairwise_headerLines
  exact List.pairwise_map.1 hlines

theorem plannedUnits_scenarios_append (feature : Feature) {first middle last : Nat}
    (hfirst : first ≤ middle) (hlast : middle < last) (text front back : String) :
    feature.plannedUnits ⟨first, last, text⟩ .scenarios =
      feature.plannedUnits ⟨first, middle, front⟩ .scenarios ++
        feature.plannedUnits ⟨middle + 1, last, back⟩ .scenarios := by
  rw [plannedUnits_scenarios, plannedUnits_scenarios, plannedUnits_scenarios]
  exact filter_range_append (feature.pairwise_plannedUnits_feature ⟨first, last, text⟩) hfirst hlast

theorem plannedUnits_steps_append (feature : Feature) {first middle last : Nat}
    (hfirst : first ≤ middle) (hlast : middle < last) (text front back : String) :
    feature.plannedUnits ⟨first, last, text⟩ .steps =
      feature.plannedUnits ⟨first, middle, front⟩ .steps ++
        feature.plannedUnits ⟨middle + 1, last, back⟩ .steps := by
  have hlines : List.range' first (last + 1 - first) =
      List.range' first (middle + 1 - first) ++
        List.range' (middle + 1) (last + 1 - (middle + 1)) := by
    have hmiddle : middle + 1 = first + (middle + 1 - first) := by omega
    have hcount : last + 1 - first = (middle + 1 - first) + (last + 1 - (middle + 1)) := by omega
    rw [hcount, ← List.range'_append_1, ← hmiddle]
  simp only [plannedUnits, targetLines, shown, hlines, List.map_append]

/-- The units planned for a range are those of its front followed by those of its back. -/
theorem plannedUnits_append (feature : Feature) (hscope : scope = .scenarios ∨ scope = .steps)
    {first middle last : Nat} (hfirst : first ≤ middle) (hlast : middle < last)
    (text front back : String) :
    feature.plannedUnits ⟨first, last, text⟩ scope =
      feature.plannedUnits ⟨first, middle, front⟩ scope ++
        feature.plannedUnits ⟨middle + 1, last, back⟩ scope := by
  rcases hscope with rfl | rfl
  · exact feature.plannedUnits_scenarios_append hfirst hlast text front back
  · exact feature.plannedUnits_steps_append hfirst hlast text front back

end Feature

/-- **The plan of a range is that of its front followed by that of its back**, for scenarios as for
steps, wherever the range is cut and whatever lines the entries of the feature share. -/
theorem collectPlan_append (feature : Feature)
    (hsome : feature.scenarios ≠ [] ∨ feature.outlines ≠ []) (scope : Scope)
    (hscope : scope = .scenarios ∨ scope = .steps) (first middle last : Nat)
    (hfirst : first ≤ middle) (hlast : middle < last) (text front back : String) :
    ∃ before after,
      (collectPlan feature ⟨first, middle, front⟩ scope).result = .ok (some ⟨before, false⟩) ∧
      (collectPlan feature ⟨middle + 1, last, back⟩ scope).result = .ok (some ⟨after, false⟩) ∧
      (collectPlan feature ⟨first, last, text⟩ scope).result =
        .ok (some ⟨before ++ after, false⟩) := by
  have h : feature.hasScenarios = true := Feature.hasScenarios_iff.2 hsome
  have hplan : ∀ selection, (collectPlan feature selection scope).result =
      .ok (some ⟨feature.plannedUnits selection scope, false⟩) := by
    intro selection
    rw [collectPlan_of_scenarios selection scope h]
    rcases hscope with rfl | rfl <;> rfl
  refine ⟨feature.plannedUnits ⟨first, middle, front⟩ scope,
    feature.plannedUnits ⟨middle + 1, last, back⟩ scope, hplan _, hplan _, ?_⟩
  rw [hplan, feature.plannedUnits_append hscope hfirst hlast text front back]

/-- Three scenarios and an outline, two of them on the line at which the range is cut. -/
theorem collectPlan_append_shared_line :
    ∃ before after,
      (collectPlan ⟨"Till", none, [⟨"a", 7, []⟩, ⟨"b", 4, []⟩, ⟨"c", 9, []⟩], [⟨"d", 4, []⟩]⟩
        ⟨2, 4, ""⟩ .scenarios).result = .ok (some ⟨before, false⟩) ∧
      (collectPlan ⟨"Till", none, [⟨"a", 7, []⟩, ⟨"b", 4, []⟩, ⟨"c", 9, []⟩], [⟨"d", 4, []⟩]⟩
        ⟨5, 8, ""⟩ .scenarios).result = .ok (some ⟨after, false⟩) ∧
      (collectPlan ⟨"Till", none, [⟨"a", 7, []⟩, ⟨"b", 4, []⟩, ⟨"c", 9, []⟩], [⟨"d", 4, []⟩]⟩
        ⟨2, 8, ""⟩ .scenarios).result = .ok (some ⟨before ++ after, false⟩) ∧
      (before ++ after).map (·.line) = [4, 4, 7] := by
  obtain ⟨before, after, hbefore, hafter, hwhole⟩ := collectPlan_append
    ⟨"Till", none, [⟨"a", 7, []⟩, ⟨"b", 4, []⟩, ⟨"c", 9, []⟩], [⟨"d", 4, []⟩]⟩
    (Or.inl (List.cons_ne_nil _ _)) .scenarios (Or.inl rfl) 2 4 8 (by decide) (by decide) "" "" ""
  refine ⟨before, after, hbefore, hafter, hwhole, ?_⟩
  obtain ⟨⟩ := hbefore
  obtain ⟨⟩ := hafter
  rfl

/-! ### Runs of planners -/

section

variable {υ π γ φ : Type}

/-- If every line has a unit, the units of some lines are those. -/
theorem eq_map_of_answered {ε : Type} {answer : Nat → Except ε υ} {unit : Nat → υ}
    (hanswer : ∀ line, answer line = .ok (unit line)) {lines : List Nat} {units : List υ}
    (h : List.Forall₂ (fun line unit => answer line = .ok unit) lines units) :
    units = lines.map unit := by
  induction h with
  | nil => rfl
  | cons hline _ ih =>
      rw [hanswer, Except.ok.injEq] at hline
      rw [List.map_cons, hline, ← ih]

/-- If every line has a unit, all lines are asked for and their units, if there are any,
rendered. -/
theorem Generates.calls_of_answered {tools : Toolchain υ π γ φ} {shown : Feature} {whole : Bool}
    {notices : List Notice} {lines : List Nat} {calls : List (Entry υ)}
    {result : Except (Failure π γ φ) Generation} {unit : Nat → υ}
    (h : Generates tools shown whole notices lines calls result)
    (hanswer : ∀ line, tools.generate shown line = .ok (unit line)) :
    calls = lines.map (Entry.asked shown) ++
      if lines = [] then [] else [Entry.rendered (lines.map unit) whole] := by
  cases h with
  | nothing => rfl
  | rendered hne hunits => rw [if_neg hne, eq_map_of_answered hanswer hunits]
  | unrendered hne hunits => rw [if_neg hne, eq_map_of_answered hanswer hunits]
  | refused _ hline =>
      rw [hanswer] at hline
      cases hline

/-- A toolchain whose generator is that of plans. -/
def planner (lexicon : Lexicon) (parse : String → Except π Feature)
    (format : List PlanUnit → Bool → Except φ String) (heuristic : Heuristic) :
    Toolchain PlanUnit π Empty φ :=
  ⟨lexicon, parse, planGenerator, format, heuristic⟩

theorem planTools_eq_planner (parse : String → Except π Feature)
    (printJson : Json → Except φ String) (settings : Settings) :
    planTools parse printJson settings =
      planner .builtin parse (settings.format.renderWith printJson) settings.heuristic := rfl

/-- A planner asks for the lines of the planned units of the translated feature and has these units
rendered, if there are any. -/
theorem calls_planner {lexicon : Lexicon} {parse : String → Except π Feature}
    (format : List PlanUnit → Bool → Except φ String) {heuristic : Heuristic} {text : String}
    {parsed feature : Feature} {notices : List Notice} (hparse : parse text = .ok parsed)
    (htranslate : lexicon.translateDeclared (declaredLanguage? text) parsed = (feature, notices))
    (h : feature.hasScenarios = true) (hscope : heuristic.scope selection feature = scope) :
    ((planner lexicon parse format heuristic).run text selection).calls =
      (feature.plannedUnits selection scope).map
          (fun unit => Entry.asked (feature.shown selection scope) unit.line) ++
        if feature.plannedUnits selection scope = [] then []
        else [Entry.rendered (feature.plannedUnits selection scope) (scope = .feature)] := by
  have hparse' : (planner lexicon parse format heuristic).parse text = .ok parsed := hparse
  have hrun := Toolchain.generates_run hparse' htranslate selection hscope
  rw [Feature.askedLines, if_pos h] at hrun
  rw [hrun.calls_of_answered fun _ => rfl, ← feature.map_line_plannedUnits, List.map_map]
  simp only [List.map_eq_nil_iff]
  rw [feature.map_line_plannedUnits]
  rfl

end

end FeaturePlan
