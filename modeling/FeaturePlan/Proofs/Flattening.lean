/-
From the syntax tree of a file to its feature.

The tree keeps scenarios in rules and outside of them, the feature in two lists sorted by line.
Between the two **nothing is lost, doubled or put out of order**: each scenario of the tree is kept
in one of the lists, in that of the outlines iff it has examples, and scenarios that share a line
stay in the order of the tree.  Nothing is assumed of the lines in the tree.

Main definitions:

* `StepNode.Kept`, `ScenarioNode.Kept`, what a feature keeps of a step and of a scenario;
* `Document.Flattened`, what it keeps of a tree.

Main results:

* `Document.flattened_iff` — a tree describes one feature only, and it is `Document.toFeature`;
* `Document.exists_nodes_allScenarios_toFeature` — that feature has the scenarios of the tree, each
  once;
* `Feature.readWith_flattened` — both, of the feature that is read.
-/

import FeaturePlan.Gherkin.Grammar
import Mathlib.Data.List.Forall2
import Mathlib.Data.List.Perm.Basic

set_option relaxedAutoImplicit false
set_option autoImplicit false

namespace FeaturePlan

namespace Gherkin

/-! ### Steps and scenarios -/

/-- A step as it is kept: the keyword trimmed and in small letters, all else as it stands. -/
structure StepNode.Kept (node : StepNode) (step : Step) : Prop where
  keyword : step.keyword = plainKeyword node.keyword
  text : step.text = node.text
  line : step.line = node.line

/-- A scenario as it is kept: under the trimmed name, on its line, with its steps in their order. -/
structure ScenarioNode.Kept (node : ScenarioNode) (scenario : Scenario) : Prop where
  title : scenario.title = trimmed node.name
  line : scenario.line = node.line
  steps : List.Forall₂ StepNode.Kept node.steps scenario.steps

theorem StepNode.kept_iff {node : StepNode} {step : Step} :
    node.Kept step ↔ step = node.toStep := by
  constructor
  · intro h
    rw [toStep, ← h.keyword, ← h.text, ← h.line]
  · rintro rfl
    exact ⟨rfl, rfl, rfl⟩

/-- Items that are related to their images only are related to the list of these. -/
theorem forall₂_iff_eq_map {α β : Type} {r : α → β → Prop} {f : α → β}
    (h : ∀ a b, r a b ↔ b = f a) {as : List α} {bs : List β} :
    List.Forall₂ r as bs ↔ bs = as.map f := by
  have hr : r = fun a b => f a = b :=
    funext fun a => funext fun b => propext ((h a b).trans eq_comm)
  rw [hr, ← List.forall₂_map_left_iff (R := Eq), List.forall₂_eq_eq_eq, eq_comm]

theorem ScenarioNode.kept_iff {node : ScenarioNode} {scenario : Scenario} :
    node.Kept scenario ↔ scenario = node.toScenario := by
  have hsteps : List.Forall₂ StepNode.Kept node.steps scenario.steps ↔
      scenario.steps = node.steps.map StepNode.toStep :=
    forall₂_iff_eq_map (f := StepNode.toStep) fun _ _ => StepNode.kept_iff
  constructor
  · intro h
    rw [toScenario, ← h.title, ← h.line, ← hsteps.1 h.steps]
  · rintro rfl
    exact ⟨rfl, rfl, hsteps.2 rfl⟩

theorem ScenarioNode.forall₂_kept_iff {nodes : List ScenarioNode} {scenarios : List Scenario} :
    List.Forall₂ ScenarioNode.Kept nodes scenarios ↔ scenarios = nodes.map toScenario :=
  forall₂_iff_eq_map (f := toScenario) fun _ _ => ScenarioNode.kept_iff

theorem ScenarioNode.isOutline_eq (node : ScenarioNode) :
    node.isOutline = decide (node.examples ≠ []) := by
  cases h : node.examples <;> simp [isOutline, h]

theorem ScenarioNode.not_isOutline_eq (node : ScenarioNode) :
    (!node.isOutline) = decide (node.examples = []) := by
  rw [isOutline_eq, decide_not, Bool.not_not]

/-! ### Trees -/

namespace Document

variable {document : Document} {language : Option String} {feature : Feature}

/-- A list of scenarios that keeps some nodes in the order of their lines, where nodes on the same
line stay in the order in which they are given. -/
def KeptInOrder (nodes : List ScenarioNode) (scenarios : List Scenario) : Prop :=
  ∃ sorted, StablySorted (·.line) nodes sorted ∧ List.Forall₂ ScenarioNode.Kept sorted scenarios

/-- A feature that keeps a tree in a file that declares the given language: the scenarios without
examples and those with examples, each kept in order. -/
structure Flattened (document : Document) (language : Option String) (feature : Feature) :
    Prop where
  title : feature.title = trimmed document.name
  language : feature.language = language
  scenarios : KeptInOrder (document.allScenarios.filter fun node => node.examples = [])
    feature.scenarios
  outlines : KeptInOrder (document.allScenarios.filter fun node => node.examples ≠ [])
    feature.outlines

theorem keptInOrder_iff {nodes : List ScenarioNode} {scenarios : List Scenario} :
    KeptInOrder nodes scenarios ↔
      scenarios = (sortOn (·.line) nodes).map ScenarioNode.toScenario := by
  simp only [KeptInOrder, stablySorted_iff, ScenarioNode.forall₂_kept_iff, exists_eq_left]

theorem KeptInOrder.ascending {nodes : List ScenarioNode} {scenarios : List Scenario}
    (h : KeptInOrder nodes scenarios) : scenarios.Pairwise fun a b => a.line ≤ b.line := by
  rw [keptInOrder_iff.1 h]
  exact List.pairwise_map.2 (pairwise_sortOn _ _)

theorem KeptInOrder.toScenario_mem {nodes : List ScenarioNode} {scenarios : List Scenario}
    (h : KeptInOrder nodes scenarios) {node : ScenarioNode} (hnode : node ∈ nodes) :
    node.toScenario ∈ scenarios := by
  rw [keptInOrder_iff.1 h]
  exact List.mem_map_of_mem (mem_sortOn.2 hnode)

/-- Choosing the scenarios without examples before sorting and after it agree. -/
theorem scenarios_toFeature (document : Document) (language : Option String) :
    (document.toFeature language).scenarios =
      (sortOn (·.line) (document.allScenarios.filter fun node => node.examples = [])).map
        ScenarioNode.toScenario := by
  change (document.sortedScenarios.filter fun node => !node.isOutline).map _ = _
  simp only [sortedScenarios, filter_sortOn, ScenarioNode.not_isOutline_eq]

/-- Choosing the scenarios with examples before sorting and after it agree. -/
theorem outlines_toFeature (document : Document) (language : Option String) :
    (document.toFeature language).outlines =
      (sortOn (·.line) (document.allScenarios.filter fun node => node.examples ≠ [])).map
        ScenarioNode.toScenario := by
  change (document.sortedScenarios.filter fun node => node.isOutline).map _ = _
  simp only [sortedScenarios, filter_sortOn, ScenarioNode.isOutline_eq]

/-- **A tree describes one feature only.** -/
theorem flattened_iff :
    document.Flattened language feature ↔ feature = document.toFeature language := by
  constructor
  · rintro ⟨htitle, hlanguage, hscenarios, houtlines⟩
    rw [keptInOrder_iff, ← scenarios_toFeature document language] at hscenarios
    rw [keptInOrder_iff, ← outlines_toFeature document language] at houtlines
    calc feature
        = ⟨feature.title, feature.language, feature.scenarios, feature.outlines⟩ := rfl
      _ = document.toFeature language := by
          rw [htitle, hlanguage, hscenarios, houtlines]
          rfl
  · rintro rfl
    exact ⟨rfl, rfl, keptInOrder_iff.2 (scenarios_toFeature document language),
      keptInOrder_iff.2 (outlines_toFeature document language)⟩

theorem flattened_toFeature (document : Document) (language : Option String) :
    document.Flattened language (document.toFeature language) := flattened_iff.2 rfl

/-- Scenarios on one line stay in the order of the tree, those of rules behind the others. -/
example :
    (toFeature ⟨"Till", [⟨"a", 9, [], []⟩, ⟨"b", 4, [], []⟩], [⟨[⟨"c", 4, [], []⟩]⟩]⟩
      none).scenarios.map (·.title) = ["b", "c", "a"] := by
  decide

section

variable {node : ScenarioNode} (h : document.Flattened language feature)
  (hnode : node ∈ document.allScenarios)

include h hnode

theorem Flattened.mem_scenarios (hexamples : node.examples = []) :
    node.toScenario ∈ feature.scenarios :=
  h.scenarios.toScenario_mem (List.mem_filter.2 ⟨hnode, decide_eq_true hexamples⟩)

theorem Flattened.mem_outlines (hexamples : node.examples ≠ []) :
    node.toScenario ∈ feature.outlines :=
  h.outlines.toScenario_mem (List.mem_filter.2 ⟨hnode, decide_eq_true hexamples⟩)

theorem Flattened.mem_allScenarios : node.toScenario ∈ feature.allScenarios := by
  by_cases hexamples : node.examples = []
  · exact List.mem_append_left _ (h.mem_scenarios hnode hexamples)
  · exact List.mem_append_right _ (h.mem_outlines hnode hexamples)

end

/-- The feature has the scenarios of the tree, each once. -/
theorem exists_nodes_allScenarios_toFeature (document : Document) (language : Option String) :
    ∃ nodes : List ScenarioNode, nodes.Perm document.allScenarios ∧
      (document.toFeature language).allScenarios = nodes.map ScenarioNode.toScenario := by
  refine ⟨(document.sortedScenarios.filter fun node => !node.isOutline) ++
    document.sortedScenarios.filter fun node => node.isOutline, ?_, ?_⟩
  · have hparts := List.filter_append_perm ScenarioNode.isOutline document.sortedScenarios
    exact (List.perm_append_comm.trans hparts).trans (sortOn_perm _ _)
  · rw [List.map_append]
    rfl

end Document

end Gherkin

/-! ### Reading -/

theorem Feature.readWith_of_ok {π : Type} {grammar : List Char → Except π Gherkin.Document}
    {text : String} {document : Gherkin.Document}
    (h : grammar (Gherkin.closeLine text.toList) = .ok document) :
    Feature.readWith grammar text = .ok (document.toFeature (declaredLanguage? text)) := by
  rw [readWith, h]
  rfl

/-- **Reading keeps every scenario of the tree, once and in order.**  Whatever tree the grammar
finds in a text, a feature is read; it is the only one that keeps the tree as `Document.Flattened`
says, in the language that the text itself declares; and its scenarios and outlines together are
those of the tree. -/
theorem Feature.readWith_flattened {π : Type}
    (grammar : List Char → Except π Gherkin.Document) (text : String) (document : Gherkin.Document)
    (hgrammar : grammar (Gherkin.closeLine text.toList) = .ok document) :
    ∃ feature, Feature.readWith grammar text = .ok feature ∧
      (∀ other, document.Flattened (declaredLanguage? text) other ↔ other = feature) ∧
      ∃ nodes, nodes.Perm document.allScenarios ∧
        List.Forall₂ Gherkin.ScenarioNode.Kept nodes feature.allScenarios := by
  obtain ⟨nodes, hnodes, hscenarios⟩ :=
    document.exists_nodes_allScenarios_toFeature (declaredLanguage? text)
  refine ⟨document.toFeature (declaredLanguage? text), readWith_of_ok hgrammar,
    fun other => Gherkin.Document.flattened_iff, nodes, hnodes, ?_⟩
  exact Gherkin.ScenarioNode.forall₂_kept_iff.2 hscenarios

/-! ### A file with a rule -/

theorem eq_ok_of_toOption {ε α : Type} {result : Except ε α} {value : α}
    (h : result.toOption = some value) : result = .ok value := by
  cases result with
  | ok found => exact congrArg Except.ok (Option.some.inj h)
  | error cause => cases h

namespace Gherkin

/-- A file in which a rule holds a scenario by the name of an outline, and an outline by the name of
a scenario. -/
def tillText : String :=
  "Feature: Till\n  Scenario: a \n    Given x\n  Rule: r\n    Scenario Outline: b\n" ++
    "      * y\n    Scenario: c\n      When z\n      Examples:\n        | z |"

/-- The tree of that file. -/
def tillDocument : Document :=
  ⟨"Till", [⟨"a ", 2, [⟨"Given ", "x", 3⟩], []⟩],
    [⟨[⟨"b", 5, [⟨"* ", "y", 6⟩], []⟩, ⟨"c", 7, [⟨"When ", "z", 8⟩], [[["z "]]]⟩]⟩]⟩

theorem parse_tillText : Document.parse (closeLine tillText.toList) = .ok tillDocument :=
  eq_ok_of_toOption (by decide +kernel)

end Gherkin

/-- What is read from that file. -/
theorem Feature.readWith_flattened_till :
    Gherkin.Document.parse (Gherkin.closeLine Gherkin.tillText.toList) = .ok Gherkin.tillDocument ∧
      ∃ feature, Feature.readWith Gherkin.Document.parse Gherkin.tillText = .ok feature ∧
        Gherkin.tillDocument.Flattened none feature ∧
        feature.scenarios.map (fun scenario => (scenario.title, scenario.line)) =
          [("a", 2), ("b", 5)] ∧
        feature.outlines.map (fun outline => (outline.title, outline.line)) = [("c", 7)] := by
  obtain ⟨feature, hread, hkept, -⟩ := Feature.readWith_flattened Gherkin.Document.parse
    Gherkin.tillText Gherkin.tillDocument Gherkin.parse_tillText
  have hlanguage : declaredLanguage? Gherkin.tillText = none := by decide +kernel
  rw [hlanguage] at hkept
  refine ⟨Gherkin.parse_tillText, feature, hread, (hkept feature).2 rfl, ?_⟩
  obtain rfl := (hkept _).1 (Gherkin.tillDocument.flattened_toFeature none)
  decide +kernel

end FeaturePlan
