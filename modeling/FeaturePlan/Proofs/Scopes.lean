/-
What a selection means, and when it asks for nothing.

A selection that starts on the first line means the whole feature, under either heuristic and for
no other reason.  For the rest, the text heuristic goes by a **word** and the structural one by a
**header**, and so only the structural one never means scenarios where there are none.

Main results:

* `Heuristic.scope_eq_feature_iff` — what means the whole feature;
* `Heuristic.scope_congr` — what the scope depends on;
* `Selection.scopeByText_of_word`, `Selection.scopeByText_of_no_word`,
  `Selection.scopeByStructure_of_header`, `Selection.scopeByStructure_of_no_header` — the two rules;
* `Feature.targetLines_scenarios_eq_nil_iff`, `Feature.targetLines_steps_eq_nil_iff` — where
  nothing is asked for.
-/

import FeaturePlan.Proofs.Headers

set_option relaxedAutoImplicit false
set_option autoImplicit false

namespace FeaturePlan

variable {feature a b : Feature} {selection : Selection} {heuristic : Heuristic}

/-! ### The two rules -/

namespace Selection

theorem scopeByText_eq_feature_iff :
    selection.scopeByText = .feature ↔ selection.first = 1 := by
  rw [scopeByText]
  split
  · simp [*]
  · split <;> simp [*]

theorem scopeByText_of_word (hfirst : selection.first ≠ 1)
    (hword : scenarioWord.toList <:+: Text.lower selection.text.toList) :
    selection.scopeByText = .scenarios := by
  rw [scopeByText, if_neg hfirst, if_pos (Text.mentions_iff.2 hword)]

theorem scopeByText_of_no_word (hfirst : selection.first ≠ 1)
    (hword : ¬scenarioWord.toList <:+: Text.lower selection.text.toList) :
    selection.scopeByText = .steps := by
  rw [scopeByText, if_neg hfirst, if_neg fun hmentions => hword (Text.mentions_iff.1 hmentions)]

theorem scopeByStructure_eq_feature_iff :
    selection.scopeByStructure feature = .feature ↔ selection.first = 1 := by
  rw [scopeByStructure]
  split
  · simp [*]
  · split <;> simp [*]

theorem scopeByStructure_of_header (hfirst : selection.first ≠ 1)
    (h : feature.HasHeaderIn selection) : selection.scopeByStructure feature = .scenarios := by
  obtain ⟨scenario, hscenario, hline⟩ := h
  rw [scopeByStructure, if_neg hfirst,
    if_pos (List.any_eq_true.2 ⟨scenario, hscenario, contains_iff.2 hline⟩)]

theorem scopeByStructure_of_no_header (hfirst : selection.first ≠ 1)
    (h : ¬feature.HasHeaderIn selection) : selection.scopeByStructure feature = .steps := by
  rw [scopeByStructure, if_neg hfirst, if_neg]
  intro hany
  obtain ⟨scenario, hscenario, hcontains⟩ := List.any_eq_true.1 hany
  exact h ⟨scenario, hscenario, contains_iff.1 hcontains⟩

end Selection

/-- The selections of the whole feature are those that start on the first line. -/
theorem Heuristic.scope_eq_feature_iff :
    heuristic.scope selection feature = .feature ↔ selection.first = 1 := by
  cases heuristic with
  | text => exact Selection.scopeByText_eq_feature_iff
  | structural => exact Selection.scopeByStructure_eq_feature_iff

/-- Of a feature, the scope depends on whether the selection holds a header. -/
theorem Heuristic.scope_congr (h : a.HasHeaderIn selection ↔ b.HasHeaderIn selection) :
    heuristic.scope selection a = heuristic.scope selection b := by
  cases heuristic with
  | text => rfl
  | structural =>
      by_cases hfirst : selection.first = 1
      · rw [scope_eq_feature_iff.2 hfirst, scope_eq_feature_iff.2 hfirst]
      rw [scope, scope]
      by_cases ha : a.HasHeaderIn selection
      · rw [Selection.scopeByStructure_of_header hfirst ha,
          Selection.scopeByStructure_of_header hfirst (h.1 ha)]
      · rw [Selection.scopeByStructure_of_no_header hfirst ha,
          Selection.scopeByStructure_of_no_header hfirst (mt h.2 ha)]

/-! ### Where nothing is asked for -/

namespace Feature

theorem targetLines_scenarios_eq_nil_iff :
    feature.targetLines selection .scenarios = [] ↔ ¬feature.HasHeaderIn selection := by
  rw [targetLines, headerLines_restrict, List.filter_eq_nil_iff, hasHeaderIn_iff]
  simp only [not_exists, not_and]

theorem targetLines_steps_eq_nil_iff :
    feature.targetLines selection .steps = [] ↔ selection.last < selection.first := by
  rw [targetLines, List.range'_eq_nil_iff]
  omega

/-- An empty range holds no header. -/
theorem not_hasHeaderIn_of_empty (h : selection.last < selection.first) :
    ¬feature.HasHeaderIn selection := by
  rintro ⟨scenario, -, hfirst, hlast⟩
  omega

end Feature

end FeaturePlan
