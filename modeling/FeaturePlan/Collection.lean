/-
Collecting the units of a selection.

What is collected depends on the scope of the selection.  For a **feature** there is one unit for
each scenario and outline, in the order of their header lines.  For **scenarios** it is the same
with the feature cut down to the selection, and the generator sees only that.  For **steps** there
is one unit for each selected line, whether or not a step stands there.

A feature without scenarios and outlines has nothing to collect, whatever was selected.

Main definitions: `Collection`, `collect`.
-/

import FeaturePlan.Journal

set_option relaxedAutoImplicit false
set_option autoImplicit false

namespace FeaturePlan

/-- The units of a selection. -/
structure Collection (υ : Type) where
  units : List υ
  /-- Whether the whole feature was selected. -/
  whole : Bool
deriving Repr, DecidableEq

section

variable {υ ε : Type} (generate : Feature → Nat → Except ε υ) (feature : Feature)

/-- The units on some lines.  The first line without a unit is the last to be asked for. -/
def unitsAt : List Nat → Run υ ε (List υ)
  | [] => .done []
  | line :: rest => do
    let unit ← Run.ask generate feature line
    (unit :: ·) <$> unitsAt rest

/-- The units on `count` lines from `line` on.  The lines are taken one by one, so that an early
failure ends even a very long range. -/
def unitsFrom (line : Nat) : (count : Nat) → Run υ ε (List υ)
  | 0 => .done []
  | count + 1 => do
    let unit ← Run.ask generate feature line
    (unit :: ·) <$> unitsFrom (line + 1) count

/-- The units of a selection with the given scope. -/
def unitsOf (selection : Selection) : Scope → Run υ ε (List υ)
  | .feature => unitsAt generate feature feature.headerLines
  | .scenarios =>
    let restricted := feature.restrict selection
    unitsAt generate restricted restricted.headerLines
  | .steps => unitsFrom generate feature selection.first (selection.last + 1 - selection.first)

/-- Collects the units of a selection, or nothing if the feature has no scenarios. -/
def collect (selection : Selection) (scope : Scope) : Run υ ε (Option (Collection υ)) :=
  if feature.hasScenarios then do
    let units ← unitsOf generate feature selection scope
    Run.note (.collected scope units.length)
    return some ⟨units, scope = .feature⟩
  else do
    Run.note (.nothingToCollect feature.title)
    return none

end

end FeaturePlan
