/-
The five kinds of step.

Whatever language a scenario is written in, each of its steps plays one of **five roles**: it sets
up the context, performs the action, states the outcome, continues the previous step, or contrasts
with it.  A kind is written down as its English keyword in small letters.  The kinds are told apart
by spelling alone; a continuing step is not resolved to the kind that it continues.

Main definitions:

* `StepKind`, with `StepKind.all` in the order in which the kinds are listed everywhere;
* `StepKind.keyword`, the canonical spelling;
* `StepKind.ofKeyword`, which reads a spelling back.
-/

import FeaturePlan.Text.Lowercase
import FeaturePlan.Text.Blank

set_option relaxedAutoImplicit false
set_option autoImplicit false

namespace FeaturePlan

/-- The role of a step in its scenario. -/
inductive StepKind where
  /-- Sets up what the scenario starts from. -/
  | context
  /-- Performs what is being examined. -/
  | action
  /-- States what is expected to follow. -/
  | outcome
  /-- Continues the step before it. -/
  | conjunction
  /-- Continues the step before it by way of contrast. -/
  | contrast
deriving Repr, DecidableEq

/-- A word that names no kind of step. -/
structure UnknownStepKind where
  word : String
deriving Repr, DecidableEq

/-- The complaint about a word that names no kind of step. -/
def UnknownStepKind.message (e : UnknownStepKind) : String := "invalid step kind: " ++ e.word

namespace StepKind

/-- All kinds, in their conventional order. -/
def all : List StepKind := [context, action, outcome, conjunction, contrast]

theorem mem_all (kind : StepKind) : kind ∈ all := by cases kind <;> decide

/-- The canonical spelling of a kind. -/
def keyword : StepKind → String
  | context => "given"
  | action => "when"
  | outcome => "then"
  | conjunction => "and"
  | contrast => "but"

/-- The kind whose canonical spelling is `word`, up to blanks at its ends and the case of its
letters. -/
def ofKeyword (word : String) : Except UnknownStepKind StepKind :=
  let trimmed := Text.trim word.toList
  match all.find? fun kind => Text.sameLetters trimmed kind.keyword.toList with
  | some kind => .ok kind
  | none => .error ⟨String.ofList trimmed⟩

/-- The canonical spelling of a kind names that kind. -/
@[simp] theorem ofKeyword_keyword (kind : StepKind) : ofKeyword kind.keyword = .ok kind := by
  cases kind <;> rfl

end StepKind

end FeaturePlan
