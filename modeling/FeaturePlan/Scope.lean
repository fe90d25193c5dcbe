/-
What a selection is meant to cover.

A selection that starts on the **first line** means the whole feature.  Any other one means either
the scenarios whose headers it holds or single step lines.  Two heuristics decide between the two:
one looks for the word `scenario:` in the selected text, the other for headers among the selected
lines, and so recognises headers in any language.

Main definitions: `Scope`, `Heuristic`, `Heuristic.scope`.
-/

import FeaturePlan.Selection
import FeaturePlan.Text.Blank
import FeaturePlan.Text.Lowercase
import FeaturePlan.Text.Search

set_option relaxedAutoImplicit false
set_option autoImplicit false

namespace FeaturePlan

/-- What a selection is meant to cover. -/
inductive Scope where
  | feature
  | scenarios
  | steps
deriving Repr, DecidableEq

/-- A way to tell a selection of scenarios from one of steps. -/
inductive Heuristic where
  /-- By the selected text. -/
  | text
  /-- By the headers on the selected lines. -/
  | structural
deriving Repr, DecidableEq

/-! ### The two rules -/

/-- The word that the text heuristic looks for. -/
def scenarioWord : String := "scenario:"

/-- The scope of a selection, judged by its text. -/
def Selection.scopeByText (selection : Selection) : Scope :=
  if selection.first = 1 then .feature
  else if Text.mentions scenarioWord.toList (Text.lower selection.text.toList) then .scenarios
  else .steps

/-- The scope of a selection, judged by the headers of the feature that it holds. -/
def Selection.scopeByStructure (selection : Selection) (feature : Feature) : Scope :=
  if selection.first = 1 then .feature
  else if feature.allScenarios.any fun scenario => selection.contains scenario.line then .scenarios
  else .steps

namespace Heuristic

/-- The scope of a selection in a feature. -/
def scope (heuristic : Heuristic) (selection : Selection) (feature : Feature) : Scope :=
  match heuristic with
  | text => selection.scopeByText
  | structural => selection.scopeByStructure feature

/-! ### Names -/

/-- The heuristic that is used where none is asked for. -/
def default : Heuristic := text

/-- The name of a heuristic. -/
def name : Heuristic → String
  | text => "text"
  | structural => "structure"

end Heuristic

/-- A word that names no heuristic. -/
structure UnknownHeuristic where
  word : String
deriving Repr, DecidableEq

/-- The complaint about a word that names no heuristic. -/
def UnknownHeuristic.message (e : UnknownHeuristic) : String :=
  "unknown selection heuristic '" ++ e.word ++ "', expected one of: text, structure"

/-- The heuristic that a word names, up to blanks at its ends and the case of its letters. -/
def Heuristic.ofName (word : String) : Except UnknownHeuristic Heuristic :=
  match String.ofList (Text.lower (Text.trim word.toList)) with
  | "text" => .ok .text
  | "structure" | "structural" => .ok .structural
  | _ => .error ⟨word⟩

/-- The name of a heuristic names that heuristic. -/
@[simp] theorem Heuristic.ofName_name (heuristic : Heuristic) :
    Heuristic.ofName heuristic.name = .ok heuristic := by
  cases heuristic <;> rfl

end FeaturePlan
