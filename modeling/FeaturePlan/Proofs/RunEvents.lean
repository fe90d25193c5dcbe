/-
What a run reports, and when.

A run on a parsed text reports its translation first.  What comes after translation reports **a few
events of its own**: how the selection was understood, how much was collected, and that there was
nothing to collect.  None of these is an event of a translation, so whatever a run says about
languages and rewritten keywords can be read off its translation.

Main definition: `Concluding`, the events that may be reported after translation.

Main results:

* `Run.mem_events_bind_iff` — the events of one run after another;
* `Toolchain.concluding_of_mem_conclude` — what is reported after translation;
* `Toolchain.events_run_of_parsed`, `Toolchain.filter_events_run_of_parsed` — the events of a run,
  and those among them that come from its translation.
-/

import FeaturePlan.Proofs.Generation

set_option relaxedAutoImplicit false
set_option autoImplicit false

namespace FeaturePlan

/-! ### One run after another -/

namespace Run

variable {υ ε α β : Type}

theorem events_bind_of_ok {run : Run υ ε α} {value : α} (h : run.result = .ok value)
    (next : α → Run υ ε β) : (run >>= next).events = run.events ++ (next value).events := by
  rw [bind_of_ok h, events, List.filterMap_append]
  rfl

theorem events_bind_of_error {run : Run υ ε α} {e : ε} (h : run.result = .error e)
    (next : α → Run υ ε β) : (run >>= next).events = run.events := by
  rw [bind_of_error h]
  rfl

/-- An event of two runs is one of the first, or of the second if the first succeeds. -/
theorem mem_events_bind_iff {run : Run υ ε α} {next : α → Run υ ε β} {event : Event} :
    event ∈ (run >>= next).events ↔
      event ∈ run.events ∨ ∃ value, run.result = .ok value ∧ event ∈ (next value).events := by
  cases h : run.result with
  | ok value => simp [events_bind_of_ok h]
  | error e => simp [events_bind_of_error h]

theorem mem_events_note_iff {event reported : Event} :
    event ∈ (note reported : Run υ ε Unit).events ↔ event = reported :=
  List.mem_singleton

/-- A run that does nothing but report one event. -/
theorem mem_events_note_pure_iff {event reported : Event} {value : α} :
    event ∈ (note reported >>= fun _ => pure value : Run υ ε α).events ↔ event = reported :=
  List.mem_singleton

end Run

/-! ### After translation -/

/-- The events that may be reported once a feature is translated: one about the selection, one about
what was collected, and one if that was nothing. -/
inductive Concluding (heuristic : Heuristic) (selection : Selection) (feature : Feature) :
    Event → Prop
  | classified : Concluding heuristic selection feature
      (.classified selection.first selection.last (heuristic.scope selection feature) heuristic)
  | nothingToCollect (hscenarios : feature.hasScenarios = false) :
      Concluding heuristic selection feature (.nothingToCollect feature.title)
  | collected (hscenarios : feature.hasScenarios = true) (units : Nat) :
      Concluding heuristic selection feature (.collected (heuristic.scope selection feature) units)
  | nothingCollected : Concluding heuristic selection feature .nothingCollected

/-- What is reported after translation is meant for diagnosis only. -/
theorem Concluding.level_eq {heuristic : Heuristic} {selection : Selection} {feature : Feature}
    {event : Event} (h : Concluding heuristic selection feature event) : event.level = .debug := by
  cases h <;> rfl

section

variable {υ ε : Type} {event : Event}

/-- Asking for units reports nothing. -/
theorem events_unitsAt (generate : Feature → Nat → Except ε υ) (feature : Feature)
    (lines : List Nat) : (unitsAt generate feature lines).events = [] := by
  induction lines with
  | nil => rfl
  | cons line rest ih =>
      rw [unitsAt]
      cases h : (Run.ask generate feature line).result with
      | ok unit => exact (Run.events_bind_of_ok h _).trans ih
      | error e => exact Run.events_bind_of_error h _

theorem concluding_of_mem_collect (generate : Feature → Nat → Except ε υ) (heuristic : Heuristic)
    {feature : Feature} {selection : Selection}
    (h : event ∈ (collect generate feature selection (heuristic.scope selection feature)).events) :
    Concluding heuristic selection feature event := by
  rw [collect, unitsOf_eq_unitsAt] at h
  cases hscenarios : feature.hasScenarios with
  | true =>
      rw [hscenarios, if_pos rfl, Run.mem_events_bind_iff, events_unitsAt] at h
      obtain hnone | ⟨units, -, h⟩ := h
      · cases hnone
      · rw [Run.mem_events_note_pure_iff.1 h]
        exact .collected hscenarios units.length
  | false =>
      rw [hscenarios, if_neg Bool.false_ne_true] at h
      rw [Run.mem_events_note_pure_iff.1 h]
      exact .nothingToCollect hscenarios

end

namespace Toolchain

variable {υ π γ φ : Type} {tools : Toolchain υ π γ φ} {text : String} {selection : Selection}
  {parsed feature : Feature} {notices : List Notice} {event : Event}

theorem eq_of_mem_output {collection : Option (Collection υ)}
    (h : event ∈ (tools.output collection).events) : event = .nothingCollected := by
  rcases collection with _ | ⟨_ | ⟨unit, units⟩, whole⟩
  · cases h
  · exact Run.mem_events_note_pure_iff.1 h
  · obtain hnone | ⟨_, -, hnone⟩ := Run.mem_events_bind_iff.1 h
    · cases hnone
    · cases hnone

/-- What comes after translation reports nothing but its own events. -/
theorem concluding_of_mem_conclude
    (h : event ∈ (tools.conclude selection feature notices).events) :
    Concluding tools.heuristic selection feature event := by
  rw [conclude] at h
  obtain h | ⟨-, -, h⟩ := Run.mem_events_bind_iff.1 h
  · rw [Run.mem_events_note_iff.1 h]
    exact .classified
  obtain h | ⟨collection, -, h⟩ := Run.mem_events_bind_iff.1 h
  · exact concluding_of_mem_collect _ _ h
  obtain h | ⟨_, -, hnone⟩ := Run.mem_events_bind_iff.1 h
  · rw [eq_of_mem_output h]
    exact .nothingCollected
  · cases hnone

/-! ### Runs -/

/-- A run on a parsed text reports its translation first, and then the rest. -/
theorem events_run_of_parsed (hparse : tools.parse text = .ok parsed)
    (htranslate : tools.lexicon.translateDeclared (declaredLanguage? text) parsed =
      (feature, notices)) (selection : Selection) :
    (tools.run text selection).events =
      (translate tools.lexicon (declaredLanguage? text) parsed :
        Run υ (Failure π γ φ) (Feature × List Notice)).events ++
        (tools.conclude selection feature notices).events := by
  rw [run_eq_of_parsed hparse htranslate, Run.events, List.filterMap_append]
  rfl

/-- Events that are not reported after translation are those of the translation. -/
theorem filter_events_run_of_parsed (hparse : tools.parse text = .ok parsed)
    (selection : Selection) {p : Event → Bool}
    (hp : ∀ {feature event}, Concluding tools.heuristic selection feature event →
      p event = false) :
    (tools.run text selection).events.filter p =
      (translate tools.lexicon (declaredLanguage? text) parsed :
        Run υ (Failure π γ φ) (Feature × List Notice)).events.filter p := by
  have hrest : ∀ feature notices, (tools.conclude selection feature notices).events.filter p = [] :=
    fun feature notices => List.filter_eq_nil_iff.2 fun event hevent =>
      Bool.eq_false_iff.1 (hp (concluding_of_mem_conclude hevent))
  rw [events_run_of_parsed hparse rfl, List.filter_append, hrest, List.append_nil]

end Toolchain

end FeaturePlan
