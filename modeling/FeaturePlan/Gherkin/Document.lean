/-
The syntax tree of a feature file, and the feature that it describes.

The tree keeps apart what a feature does not: scenarios inside and outside of rules, and the tables
of examples.  A **feature** has one list of scenarios and one of outlines, both in the order of
their lines; an outline is a scenario that has examples, whatever keyword introduces it.

Main definitions: `Document`, `Document.toFeature`, `Feature.readWith`.
-/

import FeaturePlan.Feature.Basic
import FeaturePlan.Language.Header
import FeaturePlan.Text.Blank
import FeaturePlan.Text.Lowercase

set_option relaxedAutoImplicit false
set_option autoImplicit false

namespace FeaturePlan.Gherkin

/-! ### The tree -/

/-- The rows of a table, each with its cells. -/
abbrev Table := List (List String)

/-- A step with the keyword as it is spelled in the dialect. -/
structure StepNode where
  keyword : String
  text : String
  line : Nat
deriving Repr, DecidableEq

/-- A scenario with the tables of its examples. -/
structure ScenarioNode where
  name : String
  line : Nat
  steps : List StepNode
  examples : List Table
deriving Repr, DecidableEq

/-- A rule, which groups scenarios. -/
structure RuleNode where
  scenarios : List ScenarioNode
deriving Repr, DecidableEq

/-- A feature file. -/
structure Document where
  name : String
  /-- The scenarios outside of rules. -/
  scenarios : List ScenarioNode
  rules : List RuleNode
deriving Repr, DecidableEq

/-! ### The feature of a tree -/

/-- A text without blanks at its ends. -/
def trimmed (text : String) : String := String.ofList (Text.trim text.toList)

/-- A keyword as a feature keeps it: without blanks at its ends, in small letters. -/
def plainKeyword (keyword : String) : String :=
  String.ofList (Text.lower (Text.trim keyword.toList))

/-- The step of a tree as a feature keeps it. -/
def StepNode.toStep (node : StepNode) : Step := ⟨plainKeyword node.keyword, node.text, node.line⟩

namespace ScenarioNode

/-- The scenario of a tree as a feature keeps it. -/
def toScenario (node : ScenarioNode) : Scenario :=
  ⟨trimmed node.name, node.line, node.steps.map StepNode.toStep⟩

/-- Whether the scenario has examples. -/
def isOutline (node : ScenarioNode) : Bool := !node.examples.isEmpty

end ScenarioNode

namespace Document

/-- The scenarios outside of rules, then those of the rules, in the order of the tree. -/
def allScenarios (document : Document) : List ScenarioNode :=
  document.scenarios ++ document.rules.flatMap (·.scenarios)

/-- The scenarios in the order of their lines; those that share a line stay in the order of the
tree. -/
def sortedScenarios (document : Document) : List ScenarioNode :=
  sortOn (·.line) document.allScenarios

/-- The feature that a tree describes, in a file that declares the given language. -/
def toFeature (document : Document) (language : Option String) : Feature where
  title := trimmed document.name
  language := language
  scenarios := (document.sortedScenarios.filter fun node => !node.isOutline).map
    ScenarioNode.toScenario
  outlines := (document.sortedScenarios.filter fun node => node.isOutline).map
    ScenarioNode.toScenario

end Document

/-! ### Reading -/

/-- The characters with a line feed behind them unless they end in one. -/
def closeLine : List Char → List Char
  | [] => ['\n']
  | ['\n'] => ['\n']
  | c :: rest => c :: closeLine rest

theorem closeLine_cons (c : Char) {rest : List Char} (h : rest ≠ []) :
    closeLine (c :: rest) = c :: closeLine rest := by
  rw [closeLine]
  exact fun _ hr => h hr

/-- A text that ends in a line feed stays as it is. -/
@[simp] theorem closeLine_append_lineFeed (cs : List Char) :
    closeLine (cs ++ ['\n']) = cs ++ ['\n'] := by
  induction cs with
  | nil => rfl
  | cons c rest ih => rw [List.cons_append, closeLine_cons c (by simp), ih]

/-- A text that does not end in a line feed gets one. -/
theorem closeLine_of_getLast? {cs : List Char} (h : cs.getLast? ≠ some '\n') :
    closeLine cs = cs ++ ['\n'] := by
  induction cs with
  | nil => rfl
  | cons c rest ih =>
    cases rest with
    | nil =>
      have hc : c ≠ '\n' := by simpa using h
      simp [closeLine, hc]
    | cons d rest =>
      rw [List.getLast?_cons_cons] at h
      rw [closeLine_cons c (by simp), ih h]
      rfl

end FeaturePlan.Gherkin

namespace FeaturePlan

/-- The feature of a text, for a grammar that finds the syntax tree of a text whose last line has
an end.  The language is the one that the text itself declares. -/
def Feature.readWith {π : Type} (grammar : List Char → Except π Gherkin.Document) (text : String) :
    Except π Feature :=
  (grammar (Gherkin.closeLine text.toList)).map fun document =>
    document.toFeature (declaredLanguage? text)

end FeaturePlan
