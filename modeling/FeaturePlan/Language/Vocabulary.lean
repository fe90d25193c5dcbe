/-
The vocabulary of a language: its step keywords.

A language spells each kind of step in one or more ways.  An entry that contains the **wildcard**
`*` is a bullet and not a word: it can introduce a step of any kind, so it says nothing about the
kind and is left out whenever spellings are looked up.

Main definitions: `Vocabulary`, `Vocabulary.get`, `Vocabulary.add`, `Vocabulary.literals`.
-/

import FeaturePlan.StepKind

set_option relaxedAutoImplicit false
set_option autoImplicit false

namespace FeaturePlan

/-- The character that marks an entry as a bullet. -/
def wildcard : Char := '*'

/-- The spellings of each kind of step, in the order in which they were given. -/
structure Vocabulary where
  context : List String := []
  action : List String := []
  outcome : List String := []
  conjunction : List String := []
  contrast : List String := []
deriving Repr, DecidableEq

namespace Vocabulary

/-- The vocabulary without any spelling. -/
def empty : Vocabulary := {}

/-- The spellings of a kind. -/
def get (vocabulary : Vocabulary) : StepKind → List String
  | .context => vocabulary.context
  | .action => vocabulary.action
  | .outcome => vocabulary.outcome
  | .conjunction => vocabulary.conjunction
  | .contrast => vocabulary.contrast

/-- The vocabulary with further spellings of a kind, behind those it has. -/
def add (vocabulary : Vocabulary) (kind : StepKind) (words : List String) : Vocabulary :=
  match kind with
  | .context => { vocabulary with context := vocabulary.context ++ words }
  | .action => { vocabulary with action := vocabulary.action ++ words }
  | .outcome => { vocabulary with outcome := vocabulary.outcome ++ words }
  | .conjunction => { vocabulary with conjunction := vocabulary.conjunction ++ words }
  | .contrast => { vocabulary with contrast := vocabulary.contrast ++ words }

@[simp] theorem get_empty (kind : StepKind) : empty.get kind = [] := by cases kind <;> rfl

/-- Adding spellings of one kind leaves the other kinds alone. -/
theorem get_add (vocabulary : Vocabulary) (kind other : StepKind) (words : List String) :
    (vocabulary.add kind words).get other =
      if kind = other then vocabulary.get other ++ words else vocabulary.get other := by
  cases kind <;> cases other <;> rfl

/-- Whether an entry is a word, not a bullet. -/
def isLiteral (word : String) : Bool := !word.toList.contains wildcard

/-- The spellings that are words, each with its kind, kind after kind. -/
def literals (vocabulary : Vocabulary) : List (StepKind × String) :=
  StepKind.all.flatMap fun kind =>
    ((vocabulary.get kind).filter isLiteral).map fun word => (kind, word)

theorem mem_literals {vocabulary : Vocabulary} {kind : StepKind} {word : String} :
    (kind, word) ∈ vocabulary.literals ↔ word ∈ vocabulary.get kind ∧ isLiteral word = true := by
  simp only [literals, List.mem_flatMap, List.mem_map, List.mem_filter, Prod.mk.injEq]
  constructor
  · rintro ⟨_, _, w, hw, rfl, rfl⟩
    exact hw
  · intro h
    exact ⟨kind, StepKind.mem_all kind, word, h, rfl, rfl⟩

end Vocabulary

end FeaturePlan
