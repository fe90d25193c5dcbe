/-
The events that a run reports for diagnosis.

An event is a cause with its particulars.  Its **level**, its **message** and its **fields** are
functions of the cause, so that whoever prints events needs to know none of them.
-/

import FeaturePlan.Scope

set_option relaxedAutoImplicit false
set_option autoImplicit false

namespace FeaturePlan

/-- How much attention an event deserves, from the least to the most. -/
inductive Level where
  | trace
  | debug
  | info
  | warn
  | error
deriving Repr, DecidableEq

/-- Something that happened in a run and that may be reported. -/
inductive Event where
  /-- The steps of the feature with this title are about to be translated. -/
  | translating (language title : String)
  /-- So many steps were translated, and so many of their keywords changed. -/
  | translated (language : String) (steps changed : Nat)
  /-- The declared language is not in the lexicon. -/
  | languageMissing (language : String)
  /-- The selection was found to have this scope. -/
  | classified (first last : Nat) (scope : Scope) (heuristic : Heuristic)
  /-- The feature with this title has neither scenarios nor outlines. -/
  | nothingToCollect (title : String)
  /-- So many units were collected. -/
  | collected (scope : Scope) (units : Nat)
  /-- The selection holds no unit. -/
  | nothingCollected
deriving Repr, DecidableEq

/-- The name of a scope in a report. -/
def Scope.label : Scope → String
  | .feature => "Feature"
  | .scenarios => "Scenario"
  | .steps => "Step"

namespace Event

/-- The level of an event. -/
def level : Event → Level
  | languageMissing _ => .warn
  | _ => .debug

/-- The fixed text of an event. -/
def message : Event → String
  | translating _ _ => "translating steps"
  | translated _ _ _ => "translated steps"
  | languageMissing _ => "cannot find language in keyword table"
  | classified _ _ _ _ => "classified selection"
  | nothingToCollect _ => "feature has no scenarios; nothing to collect"
  | collected _ _ => "collected commands"
  | nothingCollected => "selection produced no commands"

/-- The particulars of an event, each under its name. -/
def fields : Event → List (String × String)
  | translating language title => [("language", language), ("feature", title)]
  | translated language steps changed =>
    [("language", language), ("steps", steps.repr), ("rewritten", changed.repr)]
  | languageMissing language => [("language", language)]
  | classified first last scope heuristic =>
    [("start", first.repr), ("end", last.repr), ("kind", scope.label),
     ("heuristic", heuristic.name)]
  | nothingToCollect title => [("feature", title)]
  | collected scope units => [("kind", scope.label), ("commands", units.repr)]
  | nothingCollected => []

end Event

end FeaturePlan
