/-
What collecting units asks for, and when it stops.

Units are asked for **line by line in ascending order**, and the first refusal is the end: no line
after it is asked for, and what was generated before it is lost.  Which lines these are depends on
the scope of the selection; for scenarios, the generator is shown no others than the selected ones.

Main definitions:

* `Run.calls`, the calls of the helpers in a run;
* `AskedFor`, the lines for which a selection asks, and `Feature.shown`, what the generator sees.

Main results:

* `unitsAt_of_answered`, `unitsAt_of_refused`, `answered_or_refused` — how the questions for some
  lines go;
* `askedFor_iff` — the lines asked for are those that `AskedFor` describes;
* `collect_of_answered`, `collect_of_refused` — how collecting goes.
-/

import FeaturePlan.Collection
import Mathlib.Data.List.Forall2
import Mathlib.Data.List.Sort

set_option relaxedAutoImplicit false
set_option autoImplicit false

namespace FeaturePlan

/-! ### The calls in a run -/

/-- Whether an entry is the call of a helper and not an event. -/
def Entry.isCall {υ : Type} : Entry υ → Bool
  | .noted _ => false
  | .asked _ _ => true
  | .rendered _ _ => true

namespace Run

variable {υ ε α β : Type}

/-- The calls of the helpers in a run, in order. -/
def calls (run : Run υ ε α) : List (Entry υ) := run.journal.filter Entry.isCall

@[simp] theorem calls_note (event : Event) : (note event : Run υ ε Unit).calls = [] := rfl

@[simp] theorem calls_noteAll (events : List Event) : (noteAll events : Run υ ε Unit).calls = [] :=
  List.filter_eq_nil_iff.2 fun entry hentry => by
    obtain ⟨event, -, rfl⟩ := List.mem_map.1 hentry
    simp [Entry.isCall]

@[simp] theorem calls_pure (value : α) : (pure value : Run υ ε α).calls = [] := rfl

/-- What is rendered can be read off the calls. -/
theorem renderings_eq_filterMap_calls (run : Run υ ε α) :
    run.renderings = run.calls.filterMap fun
      | .rendered units whole => some (units, whole)
      | _ => none := by
  rw [renderings, calls, List.filterMap_filter]
  congr 1
  funext entry
  cases entry <;> rfl

/-- If the last call is the only one of the renderer, it is all that is rendered. -/
theorem renderings_of_calls {run : Run υ ε α} {shown : Feature} {lines : List Nat} {units : List υ}
    {whole : Bool} (h : run.calls = lines.map (Entry.asked shown) ++ [Entry.rendered units whole]) :
    run.renderings = [(units, whole)] := by
  rw [renderings_eq_filterMap_calls, h, List.filterMap_append, List.filterMap_map]
  simp

theorem calls_bind_of_ok {run : Run υ ε α} {value : α} (h : run.result = .ok value)
    (next : α → Run υ ε β) : (run >>= next).calls = run.calls ++ (next value).calls := by
  rw [bind_of_ok h, calls, List.filter_append]
  rfl

theorem result_bind_of_ok {run : Run υ ε α} {value : α} (h : run.result = .ok value)
    (next : α → Run υ ε β) : (run >>= next).result = (next value).result := by
  rw [bind_of_ok h]

theorem calls_bind_of_error {run : Run υ ε α} {e : ε} (h : run.result = .error e)
    (next : α → Run υ ε β) : (run >>= next).calls = run.calls := by
  rw [bind_of_error h]
  rfl

theorem result_bind_of_error {run : Run υ ε α} {e : ε} (h : run.result = .error e)
    (next : α → Run υ ε β) : (run >>= next).result = .error e := by
  rw [bind_of_error h]

theorem calls_bind_pure (run : Run υ ε α) (f : α → β) :
    (run >>= fun value => pure (f value)).calls = run.calls := by
  cases h : run.result with
  | ok value => rw [calls_bind_of_ok h, calls_pure, List.append_nil]
  | error e => exact calls_bind_of_error h _

theorem result_bind_pure (run : Run υ ε α) (f : α → β) :
    (run >>= fun value => pure (f value)).result = run.result.map f := by
  cases h : run.result with
  | ok value => exact result_bind_of_ok h _
  | error e => exact result_bind_of_error h _

end Run

/-! ### Asking line by line -/

section

variable {υ ε : Type} {generate : Feature → Nat → Except ε υ} {feature : Feature}

/-- If every line has a unit, every line is asked for and the units are those of the lines. -/
theorem unitsAt_of_answered {lines : List Nat} {units : List υ}
    (h : List.Forall₂ (fun line unit => generate feature line = .ok unit) lines units) :
    unitsAt generate feature lines = ⟨lines.map (Entry.asked feature), .ok units⟩ := by
  induction h with
  | nil => rfl
  | @cons line unit lines units hline _ ih =>
      have hask : (Run.ask generate feature line).result = .ok unit := hline
      rw [unitsAt, Run.bind_of_ok hask, ih]
      rfl

/-- The line that is refused is the last to be asked for. -/
theorem unitsAt_of_refused {before after : List Nat} {line : Nat} {cause : ε}
    (hbefore : ∀ earlier ∈ before, ∃ unit, generate feature earlier = .ok unit)
    (hline : generate feature line = .error cause) :
    unitsAt generate feature (before ++ line :: after) =
      ⟨(before ++ [line]).map (Entry.asked feature), .error cause⟩ := by
  -- the lines after the refused one play no part, so the induction is on those before it
  induction before with
  | nil =>
      have hask : (Run.ask generate feature line).result = .error cause := hline
      rw [List.nil_append, unitsAt, Run.bind_of_error hask]
      rfl
  | cons first before ih =>
      obtain ⟨hfirst, hrest⟩ := List.forall_mem_cons.1 hbefore
      obtain ⟨unit, hunit⟩ := hfirst
      have hask : (Run.ask generate feature first).result = .ok unit := hunit
      rw [List.cons_append, unitsAt, Run.bind_of_ok hask, ih hrest]
      rfl

/-- Either every line has a unit or there is a first one that is refused. -/
theorem answered_or_refused (answer : Nat → Except ε υ) (lines : List Nat) :
    (∃ units, List.Forall₂ (fun line unit => answer line = .ok unit) lines units) ∨
      ∃ before line after cause, lines = before ++ line :: after ∧
        (∀ earlier ∈ before, ∃ unit, answer earlier = .ok unit) ∧ answer line = .error cause := by
  induction lines with
  | nil => exact Or.inl ⟨[], List.Forall₂.nil⟩
  | cons first rest ih =>
      cases hfirst : answer first with
      | error cause => exact Or.inr ⟨[], first, rest, cause, rfl, by simp, hfirst⟩
      | ok unit =>
          rcases ih with ⟨units, hunits⟩ | ⟨before, line, after, cause, rfl, hbefore, hline⟩
          · exact Or.inl ⟨unit :: units, List.Forall₂.cons hfirst hunits⟩
          · refine Or.inr ⟨first :: before, line, after, cause, rfl, ?_, hline⟩
            exact List.forall_mem_cons.2 ⟨⟨unit, hfirst⟩, hbefore⟩

/-- Going through a range line by line is going through the list of its lines. -/
theorem unitsFrom_eq_unitsAt (line count : Nat) :
    unitsFrom generate feature line count = unitsAt generate feature (List.range' line count) := by
  induction count generalizing line with
  | zero => rfl
  | succ count ih =>
      rw [unitsFrom, List.range'_succ, unitsAt]
      simp only [ih]

end

/-! ### The lines asked for -/

/-- What the generator sees of a feature: the selected scenarios, if scenarios are selected. -/
def Feature.shown (feature : Feature) (selection : Selection) : Scope → Feature
  | .feature => feature
  | .scenarios => feature.restrict selection
  | .steps => feature

/-- The lines for which a selection asks, in the order of the questions, unless there is nothing to
collect. -/
def Feature.targetLines (feature : Feature) (selection : Selection) : Scope → List Nat
  | .feature => feature.headerLines
  | .scenarios => (feature.restrict selection).headerLines
  | .steps => List.range' selection.first (selection.last + 1 - selection.first)

/-- The lines for which a selection asks: none if the feature has no scenarios. -/
def Feature.askedLines (feature : Feature) (selection : Selection) (scope : Scope) : List Nat :=
  if feature.hasScenarios then feature.targetLines selection scope else []

/-- The lines for which a selection asks, described apart from the way in which they are found. -/
inductive AskedFor (feature : Feature) (selection : Selection) : Scope → List Nat → Prop
  /-- A feature without scenarios and outlines has nothing to ask for. -/
  | nothing (scope : Scope) (hscenarios : feature.scenarios = [])
      (houtlines : feature.outlines = []) :
      AskedFor feature selection scope []
  /-- For a feature these are all header lines, with repetitions, in ascending order. -/
  | feature {lines : List Nat} (hsome : feature.scenarios ≠ [] ∨ feature.outlines ≠ [])
      (hsorted : lines.Pairwise (· ≤ ·)) (hlines : lines.Perm (feature.allScenarios.map (·.line))) :
      AskedFor feature selection .feature lines
  /-- For scenarios these are the header lines in the selection, in ascending order. -/
  | scenarios {lines : List Nat} (hsome : feature.scenarios ≠ [] ∨ feature.outlines ≠ [])
      (hsorted : lines.Pairwise (· ≤ ·))
      (hlines : lines.Perm ((feature.allScenarios.map (·.line)).filter fun line =>
        selection.first ≤ line ∧ line ≤ selection.last)) :
      AskedFor feature selection .scenarios lines
  /-- For steps these are the lines of the selection, each once, in ascending order. -/
  | steps {lines : List Nat} (hsome : feature.scenarios ≠ [] ∨ feature.outlines ≠ [])
      (hsorted : lines.Pairwise (· < ·))
      (hlines : ∀ line, line ∈ lines ↔ selection.first ≤ line ∧ line ≤ selection.last) :
      AskedFor feature selection .steps lines

namespace Feature

theorem hasScenarios_iff {feature : Feature} :
    feature.hasScenarios = true ↔ feature.scenarios ≠ [] ∨ feature.outlines ≠ [] := by
  simp [hasScenarios]

theorem hasScenarios_eq_false_iff {feature : Feature} :
    feature.hasScenarios = false ↔ feature.scenarios = [] ∧ feature.outlines = [] := by
  simp [hasScenarios]

theorem pairwise_headerLines (feature : Feature) : feature.headerLines.Pairwise (· ≤ ·) :=
  pairwise_sortOn id _

theorem headerLines_perm (feature : Feature) :
    feature.headerLines.Perm (feature.allScenarios.map (·.line)) :=
  sortOn_perm id _

/-- The scenarios and outlines of the feature cut down to a selection. -/
theorem allScenarios_restrict (feature : Feature) (selection : Selection) :
    (feature.restrict selection).allScenarios =
      feature.allScenarios.filter fun scenario => selection.contains scenario.line := by
  simp [allScenarios, restrict, restrictScenarios]

theorem headerLines_restrict_perm (feature : Feature) (selection : Selection) :
    (feature.restrict selection).headerLines.Perm
      ((feature.allScenarios.map (·.line)).filter fun line =>
        selection.first ≤ line ∧ line ≤ selection.last) := by
  have hperm := (feature.restrict selection).headerLines_perm
  rw [allScenarios_restrict] at hperm
  rw [List.filter_map]
  simpa [Selection.contains, Function.comp_def] using hperm

theorem mem_targetLines_of_mem_askedLines {feature : Feature} {selection : Selection}
    {scope : Scope} {line : Nat}
    (h : line ∈ feature.askedLines selection scope) :
    line ∈ feature.targetLines selection scope := by
  rw [askedLines] at h
  split at h
  · exact h
  · exact absurd h List.not_mem_nil

theorem mem_targetLines_steps {feature : Feature} {selection : Selection} {line : Nat} :
    line ∈ feature.targetLines selection .steps ↔
      selection.first ≤ line ∧ line ≤ selection.last := by
  rw [targetLines, List.mem_range'_1]
  omega

end Feature

/-- The lines that are asked for are described by `AskedFor`. -/
theorem askedFor_askedLines (feature : Feature) (selection : Selection) (scope : Scope) :
    AskedFor feature selection scope (feature.askedLines selection scope) := by
  rw [Feature.askedLines]
  split
  · rename_i hsome
    rw [Feature.hasScenarios_iff] at hsome
    cases scope with
    | feature => exact .feature hsome feature.pairwise_headerLines feature.headerLines_perm
    | scenarios =>
        exact .scenarios hsome (Feature.pairwise_headerLines _)
          (feature.headerLines_restrict_perm selection)
    | steps =>
        exact .steps hsome List.pairwise_lt_range' fun _ => Feature.mem_targetLines_steps
  · rename_i hnone
    obtain ⟨hscenarios, houtlines⟩ :=
      Feature.hasScenarios_eq_false_iff.1 (Bool.eq_false_iff.2 hnone)
    exact .nothing scope hscenarios houtlines

/-- `AskedFor` describes no other lines: an ascending list is determined by what it holds. -/
theorem AskedFor.eq_askedLines {feature : Feature} {selection : Selection} {scope : Scope}
    {lines : List Nat} (h : AskedFor feature selection scope lines) :
    lines = feature.askedLines selection scope := by
  rw [Feature.askedLines]
  cases h with
  | nothing _ hscenarios houtlines =>
      have hnone : feature.hasScenarios = false :=
        Feature.hasScenarios_eq_false_iff.2 ⟨hscenarios, houtlines⟩
      rw [hnone]
      rfl
  | feature hsome hsorted hlines =>
      rw [if_pos (Feature.hasScenarios_iff.2 hsome)]
      have hperm := hlines.trans feature.headerLines_perm.symm
      exact hperm.eq_of_pairwise' hsorted feature.pairwise_headerLines
  | scenarios hsome hsorted hlines =>
      rw [if_pos (Feature.hasScenarios_iff.2 hsome)]
      have hperm := hlines.trans (feature.headerLines_restrict_perm selection).symm
      exact hperm.eq_of_pairwise' hsorted (Feature.pairwise_headerLines _)
  | steps hsome hsorted hlines =>
      rw [if_pos (Feature.hasScenarios_iff.2 hsome)]
      refine hsorted.eq_of_mem_iff List.pairwise_lt_range' fun line => ?_
      exact (hlines line).trans Feature.mem_targetLines_steps.symm

theorem askedFor_iff {feature : Feature} {selection : Selection} {scope : Scope}
    {lines : List Nat} :
    AskedFor feature selection scope lines ↔ lines = feature.askedLines selection scope := by
  constructor
  · exact AskedFor.eq_askedLines
  · rintro rfl
    exact askedFor_askedLines feature selection scope

/-! ### Collecting -/

section

variable {υ ε : Type} {generate : Feature → Nat → Except ε υ} {feature : Feature}
  {selection : Selection} {scope : Scope}

theorem unitsOf_eq_unitsAt :
    unitsOf generate feature selection scope =
      unitsAt generate (feature.shown selection scope) (feature.targetLines selection scope) := by
  cases scope with
  | feature => rfl
  | scenarios => rfl
  | steps => exact unitsFrom_eq_unitsAt _ _

theorem filter_isCall_map_asked (shown : Feature) (lines : List Nat) :
    (lines.map (Entry.asked shown) : List (Entry υ)).filter Entry.isCall =
      lines.map (Entry.asked shown) :=
  List.filter_eq_self.2 fun entry hentry => by
    obtain ⟨line, -, rfl⟩ := List.mem_map.1 hentry
    rfl

/-- A feature without scenarios is not collected, and nothing is asked for. -/
theorem collect_of_no_scenarios (generate : Feature → Nat → Except ε υ) (selection : Selection)
    (scope : Scope) (h : feature.hasScenarios = false) :
    (collect generate feature selection scope).calls = [] ∧
      (collect generate feature selection scope).result = .ok none := by
  rw [collect, h]
  exact ⟨rfl, rfl⟩

/-- If every line has a unit, the units of the lines are collected. -/
theorem collect_of_answered {units : List υ} (h : feature.hasScenarios = true)
    (hunits : List.Forall₂
      (fun line unit => generate (feature.shown selection scope) line = .ok unit)
      (feature.targetLines selection scope) units) :
    (collect generate feature selection scope).calls =
        (feature.targetLines selection scope).map (Entry.asked (feature.shown selection scope)) ∧
      (collect generate feature selection scope).result =
        .ok (some ⟨units, scope = .feature⟩) := by
  rw [collect, if_pos h, unitsOf_eq_unitsAt, unitsAt_of_answered hunits]
  constructor
  · rw [Run.calls_bind_of_ok rfl, Run.calls, filter_isCall_map_asked]
    exact List.append_nil _
  · rw [Run.result_bind_of_ok rfl]
    rfl

/-- If a line is refused, the refusal is all that comes of collecting. -/
theorem collect_of_refused {before after : List Nat} {line : Nat} {cause : ε}
    (h : feature.hasScenarios = true)
    (hlines : feature.targetLines selection scope = before ++ line :: after)
    (hbefore : ∀ earlier ∈ before, ∃ unit,
      generate (feature.shown selection scope) earlier = .ok unit)
    (hline : generate (feature.shown selection scope) line = .error cause) :
    (collect generate feature selection scope).calls =
        (before ++ [line]).map (Entry.asked (feature.shown selection scope)) ∧
      (collect generate feature selection scope).result = .error cause := by
  rw [collect, if_pos h, unitsOf_eq_unitsAt, hlines, unitsAt_of_refused hbefore hline]
  constructor
  · rw [Run.calls_bind_of_error rfl, Run.calls, filter_isCall_map_asked]
  · rw [Run.result_bind_of_error rfl]

end

end FeaturePlan
