/-
Finding what was read by its line.

Of where its entries stand a feature knows no more than their lines, and every look-up takes the
first entry on a line.  If no two headers or steps of a syntax tree share a line, that is enough:
in the feature that is read from the tree, **every line leads back to the entry on it**, and the
lines that lead nowhere are those that nothing in the tree claims.  Translation changes neither.

Main definitions:

* `Scenario.lines`, `Feature.claimedLines`, `Document.claimedLines`, the lines that are claimed;
* `Feature.IndexedBy`, the features whose lines lead back to their entries.

Main results:

* `Document.claimedLines_toFeature_perm`, `Feature.claimedLines_mapKeywords` — reading and
  translation keep the claimed lines;
* `Feature.indexedBy_of_nodup` — features without a line that is claimed twice are indexed;
* `Feature.readWith_indexed` — so is a feature that is read, and every translation of it.
-/

import FeaturePlan.Proofs.Flattening
import FeaturePlan.Proofs.Planning
import FeaturePlan.Proofs.Targets

set_option relaxedAutoImplicit false
set_option autoImplicit false

namespace FeaturePlan

/-! ### Claimed lines -/

/-- The line of a header and those of its steps. -/
def Scenario.lines (scenario : Scenario) : List Nat :=
  scenario.line :: scenario.steps.map (·.line)

/-- The lines of all headers and steps, as often as they are claimed. -/
def Feature.claimedLines (feature : Feature) : List Nat :=
  feature.allScenarios.flatMap Scenario.lines

namespace Gherkin

/-- The line of a header in a tree and those of its steps. -/
def ScenarioNode.lines (node : ScenarioNode) : List Nat := node.line :: node.steps.map (·.line)

/-- The lines of all headers and steps in a tree, as often as they are claimed. -/
def Document.claimedLines (document : Document) : List Nat :=
  document.allScenarios.flatMap ScenarioNode.lines

theorem ScenarioNode.lines_toScenario (node : ScenarioNode) :
    node.toScenario.lines = node.lines := by
  rw [Scenario.lines, toScenario, List.map_map]
  rfl

/-- Reading keeps the claimed lines. -/
theorem Document.claimedLines_toFeature_perm (document : Document) (language : Option String) :
    (document.toFeature language).claimedLines.Perm document.claimedLines := by
  obtain ⟨nodes, hnodes, hscenarios⟩ := document.exists_nodes_allScenarios_toFeature language
  have hlines : (document.toFeature language).claimedLines = nodes.flatMap ScenarioNode.lines := by
    rw [Feature.claimedLines, hscenarios, List.flatMap_map]
    simp only [ScenarioNode.lines_toScenario]
  rw [hlines]
  exact hnodes.flatMap_right _

end Gherkin

namespace Feature

variable {feature : Feature} {lines : List Nat}

/-- Rewriting keywords keeps the claimed lines. -/
theorem claimedLines_mapKeywords (f : String → String) (feature : Feature) :
    (feature.mapKeywords f).claimedLines = feature.claimedLines := by
  have hlines : ∀ scenario : Scenario, (scenario.mapKeywords f).lines = scenario.lines := by
    intro scenario
    rw [Scenario.lines, Scenario.mapKeywords, List.map_map]
    rfl
  rw [claimedLines, allScenarios_mapKeywords, List.flatMap_map]
  simp only [hlines]
  rfl

/-- The claimed lines are those of the targets. -/
theorem map_line_targets_perm (feature : Feature) :
    (feature.targets.map Target.line).Perm feature.claimedLines := by
  rw [targets, List.map_append, map_line_headerTargets, map_line_stepTargets, steps,
    List.map_flatMap]
  exact List.map_append_flatMap_perm _ _ _

/-! ### Lines that lead back -/

/-- A plan has empty units for the lines on which nothing is found. -/
theorem planGenerator_empty_iff {line : Nat} :
    (∃ unit, planGenerator feature line = .ok unit ∧ unit.kind = .empty) ↔
      feature.targetAt? line = none := by
  rw [← kind_unitAt_eq_empty_iff]
  constructor
  · rintro ⟨unit, hunit, hkind⟩
    cases hunit
    exact hkind
  · intro hkind
    exact ⟨feature.unitAt line, rfl, hkind⟩

/-- Some lines are an index to a feature: each entry is found on its line, and nothing on any line
that is not one of them; and the entries of both lists come in the order of their lines. -/
structure IndexedBy (lines : List Nat) (feature : Feature) : Prop where
  scenario : ∀ scenario ∈ feature.scenarios,
    feature.targetAt? scenario.line = some (.scenario scenario)
  outline : ∀ outline ∈ feature.outlines,
    feature.targetAt? outline.line = some (.outline outline)
  step : ∀ owner ∈ feature.allScenarios, ∀ step ∈ owner.steps,
    feature.targetAt? step.line = some (.step owner step)
  nothing : ∀ line, line ∉ lines → feature.targetAt? line = none
  empty : ∀ line,
    (∃ unit, planGenerator feature line = .ok unit ∧ unit.kind = .empty) ↔ line ∉ lines
  scenarios_ascend : feature.scenarios.Pairwise fun a b => a.line < b.line
  outlines_ascend : feature.outlines.Pairwise fun a b => a.line < b.line

theorem indexedBy_of_nodup (hlines : lines.Nodup) (hclaimed : feature.claimedLines.Perm lines)
    (hscenarios : feature.scenarios.Pairwise fun a b => a.line ≤ b.line)
    (houtlines : feature.outlines.Pairwise fun a b => a.line ≤ b.line) :
    feature.IndexedBy lines := by
  have htargets : (feature.targets.map Target.line).Perm lines :=
    feature.map_line_targets_perm.trans hclaimed
  have hdistinct : (feature.targets.map Target.line).Nodup := htargets.nodup_iff.2 hlines
  have hfound : ∀ target ∈ feature.targets, feature.targetAt? target.line = some target :=
    fun target htarget => (targetAt?_eq_some_iff hdistinct).2 ⟨htarget, rfl⟩
  have hnothing : ∀ line, feature.targetAt? line = none ↔ line ∉ lines := by
    intro line
    rw [targetAt?_eq_none_iff, htargets.mem_iff]
  have hheaders : (feature.allScenarios.map (·.line)).Nodup := by
    rw [← map_line_headerTargets]
    rw [targets, List.map_append] at hdistinct
    exact hdistinct.of_append_left
  rw [allScenarios, List.map_append] at hheaders
  exact
    { scenario := fun scenario h =>
        hfound _ (List.mem_append_left _ (scenario_mem_headerTargets h))
      outline := fun outline h => hfound _ (List.mem_append_left _ (outline_mem_headerTargets h))
      step := fun owner howner step hstep => hfound _ (step_mem_targets howner hstep)
      nothing := fun line h => (hnothing line).2 h
      empty := fun line => planGenerator_empty_iff.trans (hnothing line)
      scenarios_ascend := pairwise_lt_of_nodup hscenarios hheaders.of_append_left
      outlines_ascend := pairwise_lt_of_nodup houtlines hheaders.of_append_right }

/-- Rewriting keywords keeps the order of the entries. -/
theorem ascending_mapKeywords (f : String → String) {scenarios : List Scenario}
    (h : scenarios.Pairwise fun a b => a.line ≤ b.line) :
    (scenarios.map (Scenario.mapKeywords f)).Pairwise fun a b => a.line ≤ b.line :=
  List.pairwise_map.2 h

/-- **Every line leads back to what was read on it.**  If no line of a syntax tree is claimed twice,
the claimed lines are an index to the feature that is read from the tree, and to all translations of
it; and what is found on the line of a scenario, an outline or a step of the tree is what the
feature keeps of it. -/
theorem readWith_indexed {π : Type} (grammar : List Char → Except π Gherkin.Document)
    (text : String) (document : Gherkin.Document)
    (hgrammar : grammar (Gherkin.closeLine text.toList) = .ok document)
    (hlines : document.claimedLines.Nodup) :
    ∃ feature, Feature.readWith grammar text = .ok feature ∧
      feature.IndexedBy document.claimedLines ∧
      (∀ translator : Translator,
        (translator.translate feature).IndexedBy document.claimedLines) ∧
      ∀ node ∈ document.allScenarios,
        (node.examples = [] →
          feature.targetAt? node.line = some (.scenario node.toScenario)) ∧
        (node.examples ≠ [] →
          feature.targetAt? node.line = some (.outline node.toScenario)) ∧
        ∀ step ∈ node.steps,
          feature.targetAt? step.line = some (.step node.toScenario step.toStep) := by
  have hkept := document.flattened_toFeature (declaredLanguage? text)
  have hclaimed := document.claimedLines_toFeature_perm (declaredLanguage? text)
  have hindexed := indexedBy_of_nodup hlines hclaimed hkept.scenarios.ascending
    hkept.outlines.ascending
  refine ⟨_, readWith_of_ok hgrammar, hindexed, ?_, ?_⟩
  · intro translator
    rw [translator.translate_eq_mapKeywords]
    refine indexedBy_of_nodup hlines ?_ (ascending_mapKeywords _ hkept.scenarios.ascending)
      (ascending_mapKeywords _ hkept.outlines.ascending)
    rw [claimedLines_mapKeywords]
    exact hclaimed
  · intro node hnode
    exact ⟨fun h => hindexed.scenario _ (hkept.mem_scenarios hnode h),
      fun h => hindexed.outline _ (hkept.mem_outlines hnode h),
      fun _ hstep => hindexed.step _ (hkept.mem_allScenarios hnode) _ (List.mem_map_of_mem hstep)⟩

/-- The step of the outline in a rule, and the line of the rule, on which no entry stands. -/
theorem readWith_indexed_till :
    Gherkin.tillDocument.claimedLines.Nodup ∧
      ∃ feature, Feature.readWith Gherkin.Document.parse Gherkin.tillText = .ok feature ∧
        feature.targetAt? 8 = some (.step ⟨"c", 7, [⟨"when", "z", 8⟩]⟩ ⟨"when", "z", 8⟩) ∧
        feature.targetAt? 4 = none ∧
        (Translator.translate ⟨"x", [("when", .outcome)]⟩ feature).targetAt? 4 = none := by
  have hlines : Gherkin.tillDocument.claimedLines.Nodup := by decide
  have hrule : 4 ∉ Gherkin.tillDocument.claimedLines := by decide
  obtain ⟨feature, hread, hindexed, htranslated, hfound⟩ := readWith_indexed
    Gherkin.Document.parse Gherkin.tillText Gherkin.tillDocument Gherkin.parse_tillText hlines
  refine ⟨hlines, feature, hread, ?_, hindexed.nothing 4 hrule,
    (htranslated _).nothing 4 hrule⟩
  obtain ⟨-, -, hstep⟩ := hfound ⟨"c", 7, [⟨"When ", "z", 8⟩], [[["z "]]]⟩ (by decide)
  exact hstep ⟨"When ", "z", 8⟩ (by decide)

end Feature

end FeaturePlan
