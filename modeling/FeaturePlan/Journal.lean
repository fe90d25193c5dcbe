/-
Runs that keep a journal.

Working on a feature means asking others for help: a generator for the unit of each line, and a
renderer for the text of all units.  A **run** is what came of it, a result or the error that ended
it, together with the **journal**: every event, every question and every rendering in the order in
which they happened.  An error ends a run at once, so the journal shows what was not asked any more.

Main definitions:

* `Entry`, `Run`, and the sequencing of runs, a `Monad`;
* `Run.note`, `Run.ask`, `Run.render`, which put one entry into the journal;
* `Run.events`, `Run.questions`, `Run.renderings`, which read the journal by sort.
-/

import FeaturePlan.Event

set_option relaxedAutoImplicit false
set_option autoImplicit false

namespace FeaturePlan

/-- One thing that happened in a run. -/
inductive Entry (υ : Type) where
  /-- An event was reported. -/
  | noted (event : Event)
  /-- The generator was asked for the unit on a line of a feature. -/
  | asked (feature : Feature) (line : Nat)
  /-- The renderer was given units, and told whether they are those of a whole feature. -/
  | rendered (units : List υ) (whole : Bool)

/-- The outcome of a run, with units of type `υ` and errors of type `ε`. -/
structure Run (υ ε α : Type) where
  /-- What happened, in order. -/
  journal : List (Entry υ)
  /-- What came of it. -/
  result : Except ε α

namespace Run

variable {υ ε α β : Type}

/-! ### Sequencing -/

/-- The run in which nothing happens. -/
def done (value : α) : Run υ ε α := ⟨[], .ok value⟩

/-- One run after another.  A run that fails is the last. -/
def andThen (run : Run υ ε α) (next : α → Run υ ε β) : Run υ ε β :=
  match run.result with
  | .ok value => ⟨run.journal ++ (next value).journal, (next value).result⟩
  | .error e => ⟨run.journal, .error e⟩

/-- The run with a function applied to its result. -/
def map (f : α → β) (run : Run υ ε α) : Run υ ε β := ⟨run.journal, run.result.map f⟩

instance : Monad (Run υ ε) where
  pure := done
  bind := andThen
  map := map

@[simp] theorem pure_eq (value : α) : (pure value : Run υ ε α) = ⟨[], .ok value⟩ := rfl

theorem bind_of_ok {run : Run υ ε α} {value : α} (h : run.result = .ok value)
    (next : α → Run υ ε β) :
    run >>= next = ⟨run.journal ++ (next value).journal, (next value).result⟩ := by
  change andThen run next = _
  rw [andThen, h]

theorem bind_of_error {run : Run υ ε α} {e : ε} (h : run.result = .error e)
    (next : α → Run υ ε β) : run >>= next = ⟨run.journal, .error e⟩ := by
  change andThen run next = _
  rw [andThen, h]

@[simp] theorem journal_map (f : α → β) (run : Run υ ε α) : (f <$> run).journal = run.journal := rfl

@[simp] theorem result_map (f : α → β) (run : Run υ ε α) :
    (f <$> run).result = run.result.map f := rfl

/-! ### Single entries -/

/-- Reports an event. -/
def note (event : Event) : Run υ ε Unit := ⟨[.noted event], .ok ()⟩

/-- Reports some events. -/
def noteAll (events : List Event) : Run υ ε Unit := ⟨events.map .noted, .ok ()⟩

/-- Asks a generator for the unit on a line. -/
def ask (generate : Feature → Nat → Except ε υ) (feature : Feature) (line : Nat) : Run υ ε υ :=
  ⟨[.asked feature line], generate feature line⟩

/-- Gives units to a renderer. -/
def render (write : List υ → Bool → Except ε String) (units : List υ) (whole : Bool) :
    Run υ ε String :=
  ⟨[.rendered units whole], write units whole⟩

/-- Ends the run with an error, or goes on with a value. -/
def ofExcept (result : Except ε α) : Run υ ε α := ⟨[], result⟩

/-! ### Reading the journal -/

/-- The events of a run, in order. -/
def events (run : Run υ ε α) : List Event :=
  run.journal.filterMap fun | .noted event => some event | _ => none

/-- The questions to the generator, in order: the feature it was given and the line. -/
def questions (run : Run υ ε α) : List (Feature × Nat) :=
  run.journal.filterMap fun | .asked feature line => some (feature, line) | _ => none

/-- The calls of the renderer, in order: the units it was given and whether they are whole. -/
def renderings (run : Run υ ε α) : List (List υ × Bool) :=
  run.journal.filterMap fun | .rendered units whole => some (units, whole) | _ => none

end Run

end FeaturePlan
