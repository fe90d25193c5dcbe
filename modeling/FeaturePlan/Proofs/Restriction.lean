/-
Cutting a feature down.

A feature is cut down list by list, by the lines of the headers alone.  Cutting it down twice is
therefore cutting it down once, to **the lines that both selections hold**; so the order of the two
cuts plays no part, and the same cut made again changes nothing.  Translation looks at keywords
alone, so a feature may be translated before it is cut down or after.

What is kept of a list is described without reference to how it is found: the entries in the
selection, each as often as before and all in their order.  There is **one** list of this kind.

Main definitions: `Selection.meet`, `KeptOf`.

Main results:

* `Selection.contains_meet`, `Feature.restrict_restrict` — two cuts are one;
* `Translator.translate_restrict` — translation before and after a cut;
* `keptOf_iff` — what is kept;
* `restriction_is_intersection` — all of these.
-/

import FeaturePlan.Proofs.Rewording

set_option relaxedAutoImplicit false
set_option autoImplicit false

namespace FeaturePlan

/-! ### The lines of two selections -/

/-- The lines that both selections hold, with the given text. -/
def Selection.meet (a b : Selection) (text : String) : Selection :=
  ⟨max a.first b.first, min a.last b.last, text⟩

@[simp] theorem Selection.contains_meet (a b : Selection) (text : String) (line : Nat) :
    (a.meet b text).contains line = (a.contains line && b.contains line) := by
  rw [Bool.eq_iff_iff, Bool.and_eq_true, contains_iff, contains_iff, contains_iff, meet]
  dsimp only
  omega

theorem restrictScenarios_restrictScenarios (scenarios : List Scenario) (a b : Selection)
    (text : String) :
    restrictScenarios (restrictScenarios scenarios a) b =
      restrictScenarios scenarios (a.meet b text) := by
  simp only [restrictScenarios, List.filter_filter, Selection.contains_meet, Bool.and_comm]

namespace Feature

/-- Two cuts are one, to the lines that both selections hold. -/
theorem restrict_restrict (feature : Feature) (a b : Selection) (text : String) :
    (feature.restrict a).restrict b = feature.restrict (a.meet b text) := by
  simp only [restrict, restrictScenarios_restrictScenarios _ a b text]

theorem restrict_comm (feature : Feature) (a b : Selection) :
    (feature.restrict a).restrict b = (feature.restrict b).restrict a := by
  rw [restrict_restrict feature a b "", restrict_restrict feature b a "", Selection.meet,
    Selection.meet, Nat.max_comm, Nat.min_comm]

theorem restrict_self (feature : Feature) (selection : Selection) :
    (feature.restrict selection).restrict selection = feature.restrict selection := by
  rw [restrict_restrict feature selection selection selection.text, Selection.meet, Nat.max_self,
    Nat.min_self]

end Feature

/-! ### Translation -/

/-- A feature may be translated before it is cut down or after. -/
theorem Translator.translate_restrict (translator : Translator) (feature : Feature)
    (selection : Selection) :
    translator.translate (feature.restrict selection) =
      (translator.translate feature).restrict selection := by
  rw [translate_eq_mapKeywords, translate_eq_mapKeywords, Feature.restrict_mapKeywords]

/-! ### What is kept -/

/-- What a selection keeps of some scenarios: those whose headers it holds, each as often as it was
there, in their order. -/
structure KeptOf (selection : Selection) (before after : List Scenario) : Prop where
  order : after.Sublist before
  count : ∀ scenario, after.count scenario =
    if selection.first ≤ scenario.line ∧ scenario.line ≤ selection.last then
      before.count scenario
    else 0

theorem count_restrictScenarios (scenarios : List Scenario) (selection : Selection)
    (scenario : Scenario) :
    (restrictScenarios scenarios selection).count scenario =
      if selection.first ≤ scenario.line ∧ scenario.line ≤ selection.last then
        scenarios.count scenario
      else 0 := by
  split
  · rename_i hkept
    exact List.count_filter (Selection.contains_iff.2 hkept)
  · rename_i hcut
    refine List.count_eq_zero.2 fun hmem => hcut ?_
    exact Selection.contains_iff.1 (List.mem_filter.1 hmem).2

/-- There is one list that fits the description. -/
theorem keptOf_iff {selection : Selection} {before after : List Scenario} :
    KeptOf selection before after ↔ after = restrictScenarios before selection := by
  constructor
  · intro h
    have hperm : after.Perm (restrictScenarios before selection) :=
      List.perm_iff_count.2 fun scenario => by rw [h.count, count_restrictScenarios]
    -- the choice keeps everything in `after`, so `after` is part of what it keeps of `before`
    have hself : restrictScenarios after selection = after :=
      List.filter_eq_self.2 fun scenario hscenario =>
        (List.mem_filter.1 (hperm.mem_iff.1 hscenario)).2
    have hsublist : after.Sublist (restrictScenarios before selection) := by
      rw [← hself]
      exact h.order.filter _
    exact hsublist.eq_of_length hperm.length_eq
  · rintro rfl
    exact ⟨List.filter_sublist, count_restrictScenarios before selection⟩

/-- **Cutting a feature down is taking the lines that all selections hold.**  Two cuts are one, in
any order and as often as one likes, and translation may come before them or after.  Of the
scenarios and of the outlines, each for themselves, those in the selection are kept, in their order
and as often as they are there. -/
theorem restriction_is_intersection (feature : Feature) (a b : Selection) :
    (∀ text, (feature.restrict a).restrict b =
      feature.restrict ⟨max a.first b.first, min a.last b.last, text⟩) ∧
    (feature.restrict a).restrict b = (feature.restrict b).restrict a ∧
    (feature.restrict a).restrict a = feature.restrict a ∧
    (∀ translator : Translator, translator.translate (feature.restrict a) =
      (translator.translate feature).restrict a) ∧
    KeptOf a feature.scenarios (feature.restrict a).scenarios ∧
    KeptOf a feature.outlines (feature.restrict a).outlines :=
  ⟨feature.restrict_restrict a b, feature.restrict_comm a b, feature.restrict_self a,
    fun translator => translator.translate_restrict feature a, keptOf_iff.2 rfl, keptOf_iff.2 rfl⟩

end FeaturePlan
