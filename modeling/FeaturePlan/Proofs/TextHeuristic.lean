/-
The text heuristic sees letters, not cases.

The text heuristic looks for `scenario:` in the lowercase form of the selected text.  That form is
not taken character by character: `İ` becomes two characters, one of them an `i`, and the form of a
sigma depends on what stands around it.  Still the heuristic can be stated **without lowercasing**:
a selection means scenarios iff nine consecutive characters of its text, as given, are those of
`scenario:` up to the case of ASCII letters.  Lowercasing makes no such place and loses none.

Main definition: `Selection.NamesScenario`.

Main results:

* `Selection.scopeByText_eq_scenarios_iff`, `Selection.scopeByText_eq_steps_iff` — the heuristic;
* `Selection.text_heuristic_ignores_case` — the same, with what becomes of each place.
-/

import FeaturePlan.Proofs.Scopes
import FeaturePlan.Proofs.Text.PlainWords

set_option relaxedAutoImplicit false
set_option autoImplicit false

namespace FeaturePlan

/-! ### The word -/

theorem isPlainWord_scenarioWord : Text.isPlainWord scenarioWord.toList = true := by decide

theorem scenarioWord_ne_nil : scenarioWord.toList ≠ [] := by decide

/-- The word does not end in the letter that `İ` leaves. -/
theorem getLast?_scenarioWord : scenarioWord.toList.getLast? ≠ some 'i' := by decide

theorem length_of_sameLetters_scenarioWord {part : List Char}
    (h : Text.sameLetters part scenarioWord.toList = true) : part.length = 9 :=
  Text.length_eq_of_sameLetters h

namespace Selection

variable {selection : Selection}

/-- Nine consecutive characters of the selected text are those of `scenario:`, up to the case of
ASCII letters. -/
def NamesScenario (selection : Selection) : Prop :=
  ∃ front part back, selection.text.toList = front ++ part ++ back ∧ part.length = 9 ∧
    Text.sameLetters part scenarioWord.toList = true

/-- The word is found in the lowercase form iff its letters are there in the text itself. -/
theorem infix_lower_iff_namesScenario :
    scenarioWord.toList <:+: Text.lower selection.text.toList ↔ selection.NamesScenario := by
  rw [Text.infix_lower_iff isPlainWord_scenarioWord scenarioWord_ne_nil getLast?_scenarioWord]
  constructor
  · rintro ⟨front, part, back, htext, hletters⟩
    exact ⟨front, part, back, htext, length_of_sameLetters_scenarioWord hletters, hletters⟩
  · rintro ⟨front, part, back, htext, -, hletters⟩
    exact ⟨front, part, back, htext, hletters⟩

/-! ### The heuristic -/

/-- Past the first line, the word decides between scenarios and steps. -/
theorem namesScenario_cases (hfirst : selection.first ≠ 1) :
    (selection.NamesScenario ∧ selection.scopeByText = .scenarios) ∨
      (¬selection.NamesScenario ∧ selection.scopeByText = .steps) := by
  by_cases hnames : selection.NamesScenario
  · have hword := infix_lower_iff_namesScenario.2 hnames
    exact Or.inl ⟨hnames, scopeByText_of_word hfirst hword⟩
  · have hword := mt infix_lower_iff_namesScenario.1 hnames
    exact Or.inr ⟨hnames, scopeByText_of_no_word hfirst hword⟩

theorem scopeByText_eq_scenarios_iff (hfirst : selection.first ≠ 1) :
    selection.scopeByText = .scenarios ↔ selection.NamesScenario := by
  rcases namesScenario_cases hfirst with ⟨hnames, hscope⟩ | ⟨hnames, hscope⟩
  · exact iff_of_true hscope hnames
  · exact iff_of_false (by rw [hscope]; decide) hnames

theorem scopeByText_eq_steps_iff (hfirst : selection.first ≠ 1) :
    selection.scopeByText = .steps ↔ ¬selection.NamesScenario := by
  rcases namesScenario_cases hfirst with ⟨hnames, hscope⟩ | ⟨hnames, hscope⟩
  · exact iff_of_false (by rw [hscope]; decide) (not_not_intro hnames)
  · exact iff_of_true hscope hnames

/-- **The text heuristic does not depend on the case of letters.**  A selection that does not start
on the first line means scenarios iff its text, as given, has the letters of `scenario:` somewhere,
and steps otherwise.  The places of this word in the lowercase form are those of its letters in the
text, each with the lowercase form of what follows it. -/
theorem text_heuristic_ignores_case (selection : Selection) (hfirst : selection.first ≠ 1) :
    (selection.scopeByText = .scenarios ↔ selection.NamesScenario) ∧
    (selection.scopeByText = .steps ↔ ¬selection.NamesScenario) ∧
    ∀ after, scenarioWord.toList ++ after <:+ Text.lower selection.text.toList ↔
      ∃ front part back, selection.text.toList = front ++ part ++ back ∧ part.length = 9 ∧
        Text.sameLetters part scenarioWord.toList = true ∧
        Text.lowerAfter (front ++ part).reverse back = after := by
  refine ⟨scopeByText_eq_scenarios_iff hfirst, scopeByText_eq_steps_iff hfirst, fun after => ?_⟩
  rw [Text.lower, Text.append_suffix_lowerAfter_iff isPlainWord_scenarioWord scenarioWord_ne_nil
    getLast?_scenarioWord]
  simp only [List.append_nil]
  constructor
  · rintro ⟨front, part, back, htext, hletters, hafter⟩
    exact ⟨front, part, back, htext, length_of_sameLetters_scenarioWord hletters, hletters, hafter⟩
  · rintro ⟨front, part, back, htext, -, hletters, hafter⟩
    exact ⟨front, part, back, htext, hletters, hafter⟩

/-- The word between a sigma and a dotted capital, and two words that only look like it: one has a
dotted capital in place of its `i`, the other a long s in front. -/
theorem text_heuristic_ignores_case_greek :
    scopeByText ⟨5, 6, "ΟΔΟΣsCENARIO:İ"⟩ = .scenarios ∧
    ¬NamesScenario ⟨5, 6, "SCENARİO: ſcenario:"⟩ := by
  constructor
  · exact (text_heuristic_ignores_case ⟨5, 6, "ΟΔΟΣsCENARIO:İ"⟩ (by decide)).1.2
      ⟨"ΟΔΟΣ".toList, "sCENARIO:".toList, "İ".toList, by decide, by decide, by decide⟩
  · exact (text_heuristic_ignores_case ⟨5, 6, "SCENARİO: ſcenario:"⟩ (by decide)).2.1.1 (by decide)

end Selection

end FeaturePlan
