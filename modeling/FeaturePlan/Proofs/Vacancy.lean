/-
When there is nothing to generate.

A selection of a parsed text is **vacant** if it asks for no line.  Two places in a run find that
out, one before collecting and one after it, and what they find depends on the heuristic: the text
heuristic may promise scenarios where no header is, and the structural one may not.  Vacancy is
described here without either place, by the scenarios of the parsed feature, the range and the text.

A run has no output **iff** its selection is vacant, whatever its helpers would do, and then it
calls none of them.

Main definition: `Vacant`.

Main results:

* `Feature.askedLines_eq_nil_iff` — vacant selections are those that ask for no line;
* `Toolchain.run_output_eq_none_iff` — they are those without output, and all others ask for a unit.
-/

import FeaturePlan.Proofs.Scopes

set_option relaxedAutoImplicit false
set_option autoImplicit false

namespace FeaturePlan

variable {feature a b : Feature} {selection : Selection} {heuristic : Heuristic}

/-- The selections of a feature that leave nothing to generate, by heuristic. -/
inductive Vacant (feature : Feature) (selection : Selection) : Heuristic → Prop
  /-- Without scenarios and outlines there is nothing to select. -/
  | noScenarios (heuristic : Heuristic) (hscenarios : feature.scenarios = [])
      (houtlines : feature.outlines = []) :
      Vacant feature selection heuristic
  /-- The text promises scenarios, but the selection holds no header. -/
  | noHeader (hfirst : selection.first ≠ 1)
      (hword : scenarioWord.toList <:+: Text.lower selection.text.toList)
      (hheader : ¬feature.HasHeaderIn selection) :
      Vacant feature selection .text
  /-- The text promises steps, but the selection holds no line. -/
  | noLine (hfirst : selection.first ≠ 1)
      (hword : ¬scenarioWord.toList <:+: Text.lower selection.text.toList)
      (hempty : selection.last < selection.first) :
      Vacant feature selection .text
  /-- For the structural heuristic it is enough that the selection holds no line. -/
  | noLineStructural (hfirst : selection.first ≠ 1) (hempty : selection.last < selection.first) :
      Vacant feature selection .structural

/-- Vacancy depends on the lines of the headers only. -/
theorem Vacant.of_map_line_eq (h : a.allScenarios.map (·.line) = b.allScenarios.map (·.line))
    (hvacant : Vacant a selection heuristic) : Vacant b selection heuristic := by
  cases hvacant with
  | noScenarios heuristic hscenarios houtlines =>
      have ha : a.allScenarios = [] := Feature.allScenarios_eq_nil_iff.2 ⟨hscenarios, houtlines⟩
      have hb : b.allScenarios = [] := (Feature.allScenarios_eq_nil_congr h).1 ha
      obtain ⟨hscenarios', houtlines'⟩ := Feature.allScenarios_eq_nil_iff.1 hb
      exact .noScenarios heuristic hscenarios' houtlines'
  | noHeader hfirst hword hheader =>
      exact .noHeader hfirst hword fun hb => hheader ((Feature.hasHeaderIn_congr h).2 hb)
  | noLine hfirst hword hempty => exact .noLine hfirst hword hempty
  | noLineStructural hfirst hempty => exact .noLineStructural hfirst hempty

/-! ### Asking for no line -/

namespace Feature

/-- A selection in a feature with scenarios that asks for no line is vacant. -/
theorem vacant_of_targetLines_eq_nil (hscenarios : feature.hasScenarios = true)
    (h : feature.targetLines selection (heuristic.scope selection feature) = []) :
    Vacant feature selection heuristic := by
  have hfirst : selection.first ≠ 1 := by
    -- a whole feature asks for all of its header lines
    intro hone
    rw [Heuristic.scope_eq_feature_iff.2 hone] at h
    exact headerLines_ne_nil hscenarios h
  cases heuristic with
  | text =>
      rw [Heuristic.scope] at h
      by_cases hword : scenarioWord.toList <:+: Text.lower selection.text.toList
      · rw [Selection.scopeByText_of_word hfirst hword] at h
        exact .noHeader hfirst hword (targetLines_scenarios_eq_nil_iff.1 h)
      · rw [Selection.scopeByText_of_no_word hfirst hword] at h
        exact .noLine hfirst hword (targetLines_steps_eq_nil_iff.1 h)
  | structural =>
      rw [Heuristic.scope] at h
      by_cases hheader : feature.HasHeaderIn selection
      · -- a header in the selection is asked for
        rw [Selection.scopeByStructure_of_header hfirst hheader] at h
        exact absurd hheader (targetLines_scenarios_eq_nil_iff.1 h)
      · rw [Selection.scopeByStructure_of_no_header hfirst hheader] at h
        exact .noLineStructural hfirst (targetLines_steps_eq_nil_iff.1 h)

/-- **The vacant selections are those that ask for no line.** -/
theorem askedLines_eq_nil_iff :
    feature.askedLines selection (heuristic.scope selection feature) = [] ↔
      Vacant feature selection heuristic := by
  rw [askedLines]
  constructor
  · intro h
    cases hscenarios : feature.hasScenarios with
    | false =>
        obtain ⟨hnone, hnone'⟩ := hasScenarios_eq_false_iff.1 hscenarios
        exact .noScenarios heuristic hnone hnone'
    | true =>
        rw [if_pos hscenarios] at h
        exact vacant_of_targetLines_eq_nil hscenarios h
  · intro h
    rw [ite_eq_right_iff]
    intro hscenarios
    cases h with
    | noScenarios _ hnone hnone' =>
        rw [hasScenarios_eq_false_iff.2 ⟨hnone, hnone'⟩] at hscenarios
        exact absurd hscenarios Bool.false_ne_true
    | noHeader hfirst hword hheader =>
        rw [Heuristic.scope, Selection.scopeByText_of_word hfirst hword]
        exact targetLines_scenarios_eq_nil_iff.2 hheader
    | noLine hfirst hword hempty =>
        rw [Heuristic.scope, Selection.scopeByText_of_no_word hfirst hword]
        exact targetLines_steps_eq_nil_iff.2 hempty
    | noLineStructural hfirst hempty =>
        rw [Heuristic.scope,
          Selection.scopeByStructure_of_no_header hfirst (not_hasHeaderIn_of_empty hempty)]
        exact targetLines_steps_eq_nil_iff.2 hempty

end Feature

/-! ### What comes of asking for no line -/

section

variable {υ π γ φ : Type} {tools : Toolchain υ π γ φ} {shown : Feature} {whole : Bool}
  {notices : List Notice} {lines : List Nat} {calls : List (Entry υ)}
  {result : Except (Failure π γ φ) Generation}

theorem Generates.of_nil (h : Generates tools shown whole notices lines calls result)
    (hlines : lines = []) : calls = [] ∧ result = .ok ⟨none, notices⟩ := by
  cases h with
  | nothing => exact ⟨rfl, rfl⟩
  | rendered hne => exact absurd hlines hne
  | unrendered hne => exact absurd hlines hne
  | refused => exact absurd hlines (List.append_ne_nil_of_right_ne_nil _ (List.cons_ne_nil _ _))

theorem exists_asked_of_ne_nil (hlines : lines ≠ []) (rest : List (Entry υ)) :
    ∃ line, Entry.asked shown line ∈ lines.map (Entry.asked shown) ++ rest := by
  obtain ⟨line, hline⟩ := List.exists_mem_of_ne_nil lines hlines
  exact ⟨line, List.mem_append_left _ (List.mem_map_of_mem hline)⟩

/-- If there are lines, one is asked for, and the run does not end without output. -/
theorem Generates.of_ne_nil (h : Generates tools shown whole notices lines calls result)
    (hlines : lines ≠ []) :
    (∃ line, Entry.asked shown line ∈ calls) ∧ ∀ others, result ≠ .ok ⟨none, others⟩ := by
  cases h with
  | nothing => exact absurd rfl hlines
  | rendered => exact ⟨exists_asked_of_ne_nil hlines _, by simp⟩
  | unrendered => exact ⟨exists_asked_of_ne_nil hlines _, by simp⟩
  | @refused before _ line =>
      -- the refused line was asked for, too
      have hline : line ∈ before ++ [line] := List.mem_append_right _ List.mem_cons_self
      exact ⟨⟨line, List.mem_map_of_mem hline⟩, by simp⟩

end

/-! ### Runs without output -/

namespace Toolchain

variable {υ π γ φ : Type}

/-- **When there is no output.**  A run on a parsed text ends well and without output iff the
selection is vacant, and then no helper is called; otherwise the generator is asked for a unit. -/
theorem run_output_eq_none_iff (tools : Toolchain υ π γ φ) (text : String) (selection : Selection)
    (parsed : Feature) (hparse : tools.parse text = .ok parsed) :
    ((∃ notices, (tools.run text selection).result = .ok ⟨none, notices⟩) ↔
        Vacant parsed selection tools.heuristic) ∧
      (Vacant parsed selection tools.heuristic → (tools.run text selection).calls = []) ∧
      (¬Vacant parsed selection tools.heuristic →
        ∃ shown line, Entry.asked shown line ∈ (tools.run text selection).calls) := by
  obtain ⟨⟨feature, notices⟩, htranslate⟩ :
      ∃ pair, tools.lexicon.translateDeclared (declaredLanguage? text) parsed = pair := ⟨_, rfl⟩
  have hrun := generates_run hparse htranslate selection rfl
  have hlines := tools.lexicon.map_line_translateDeclared (declaredLanguage? text) parsed
  rw [htranslate] at hlines
  -- the lines asked for are those of the translated feature, whose headers stand where they stood
  have hasked : feature.askedLines selection (tools.heuristic.scope selection feature) = [] ↔
      Vacant parsed selection tools.heuristic :=
    Feature.askedLines_eq_nil_iff.trans
      ⟨Vacant.of_map_line_eq hlines, Vacant.of_map_line_eq hlines.symm⟩
  refine ⟨⟨?_, ?_⟩, ?_, ?_⟩
  · rintro ⟨others, hothers⟩
    by_contra hvacant
    exact (hrun.of_ne_nil (mt hasked.1 hvacant)).2 others hothers
  · intro hvacant
    exact ⟨notices, (hrun.of_nil (hasked.2 hvacant)).2⟩
  · intro hvacant
    exact (hrun.of_nil (hasked.2 hvacant)).1
  · intro hvacant
    exact ⟨_, (hrun.of_ne_nil (mt hasked.1 hvacant)).1⟩

/-- Two selections that promise scenarios, in a feature whose only header the generator refuses: one
between headers, for which it is not asked, and one that holds the header. -/
theorem run_output_between_headers :
    ((∃ notices, ((refusing ⟨"Till", none, [⟨"a", 3, []⟩], []⟩ 3).run "Feature: Till"
          ⟨4, 6, "a SCENARIO: b"⟩).result = .ok ⟨none, notices⟩) ∧
      ((refusing ⟨"Till", none, [⟨"a", 3, []⟩], []⟩ 3).run "Feature: Till"
          ⟨4, 6, "a SCENARIO: b"⟩).calls = []) ∧
    ∃ shown line, Entry.asked shown line ∈
      ((refusing ⟨"Till", none, [⟨"a", 3, []⟩], []⟩ 3).run "Feature: Till"
        ⟨3, 6, "a SCENARIO: b"⟩).calls := by
  have hvacant : Vacant ⟨"Till", none, [⟨"a", 3, []⟩], []⟩ ⟨4, 6, "a SCENARIO: b"⟩ .text := by
    refine .noHeader (by decide) (Text.mentions_iff.1 (by decide)) ?_
    rintro ⟨scenario, hscenario, hfirst, -⟩
    rw [List.mem_singleton.1 hscenario] at hfirst
    exact absurd hfirst (by decide)
  have hheader : ¬Vacant ⟨"Till", none, [⟨"a", 3, []⟩], []⟩ ⟨3, 6, "a SCENARIO: b"⟩ .text := by
    intro h
    cases h with
    | noScenarios _ hscenarios => exact List.cons_ne_nil _ _ hscenarios
    | noHeader _ _ hheader => exact hheader ⟨_, List.mem_singleton_self _, by decide⟩
    | noLine _ _ hempty => exact absurd hempty (by decide)
  obtain ⟨houtput, hcalls, -⟩ := run_output_eq_none_iff
    (refusing ⟨"Till", none, [⟨"a", 3, []⟩], []⟩ 3) "Feature: Till" ⟨4, 6, "a SCENARIO: b"⟩ _ rfl
  exact ⟨⟨houtput.2 hvacant, hcalls hvacant⟩,
    (run_output_eq_none_iff (refusing ⟨"Till", none, [⟨"a", 3, []⟩], []⟩ 3) "Feature: Till"
      ⟨3, 6, "a SCENARIO: b"⟩ _ rfl).2.2 hheader⟩

end Toolchain

end FeaturePlan
