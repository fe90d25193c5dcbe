/-
Translation is the plain walk.

A translator takes two shortcuts: a step whose keyword is canonical already is not rewritten, and a
scenario without a step to rewrite is kept whole.  **Neither shortcut shows**: translating is
replacing every recognised keyword by the canonical one and keeping all the others.

Main definition: `Translator.canonical`, what becomes of a keyword.

Main results:

* `Translator.translate_eq_mapKeywords` — translation is the plain walk with `canonical`;
* `Lexicon.translate_eq_plain_walk` — the same for a language of a lexicon, and what happens if the
  lexicon does not have it.
-/

import FeaturePlan.Proofs.Keywords
import FeaturePlan.Proofs.Lexicon
import FeaturePlan.Translator

set_option relaxedAutoImplicit false
set_option autoImplicit false

namespace FeaturePlan

namespace Translator

/-! ### One keyword -/

/-- What becomes of a keyword: the canonical spelling of its kind if it is recognised. -/
def canonical (translator : Translator) (keyword : String) : String :=
  match translator.lookup keyword with
  | some kind => kind.keyword
  | none => keyword

theorem canonical_of_lookup {translator : Translator} {keyword : String} {kind : StepKind}
    (h : translator.lookup keyword = some kind) : translator.canonical keyword = kind.keyword := by
  rw [canonical, h]

theorem canonical_of_lookup_none {translator : Translator} {keyword : String}
    (h : translator.lookup keyword = none) : translator.canonical keyword = keyword := by
  rw [canonical, h]

/-- A keyword is kept or becomes a canonical spelling. -/
theorem canonical_eq_or (translator : Translator) (keyword : String) :
    translator.canonical keyword = keyword ∨
      ∃ kind : StepKind, translator.canonical keyword = kind.keyword := by
  cases h : translator.lookup keyword with
  | none => exact Or.inl (canonical_of_lookup_none h)
  | some kind => exact Or.inr ⟨kind, canonical_of_lookup h⟩

/-- A step needs no correction iff its keyword becomes itself. -/
theorem correction?_eq_none_iff {translator : Translator} {step : Step} :
    translator.correction? step = none ↔ translator.canonical step.keyword = step.keyword := by
  cases h : translator.lookup step.keyword with
  | none => simp [correction?, h, canonical_of_lookup_none h]
  | some kind =>
      rw [correction?, h, canonical_of_lookup h, Option.filter_some]
      by_cases hkind : step.keyword = kind.keyword
      · simp [hkind]
      · simp [hkind, Ne.symm hkind]

/-- A correction is the kind of the keyword. -/
theorem lookup_of_correction? {translator : Translator} {step : Step} {kind : StepKind}
    (h : translator.correction? step = some kind) : translator.lookup step.keyword = some kind :=
  (Option.filter_eq_some_iff.1 h).1

/-! ### The two shortcuts -/

/-- A step that needs no correction is one that the plain walk leaves alone. -/
theorem translateStep_eq (translator : Translator) (step : Step) :
    translator.translateStep step = step.withKeyword (translator.canonical step.keyword) := by
  cases h : translator.correction? step with
  | none =>
      rw [translateStep, h, correction?_eq_none_iff.1 h]
      rfl
  | some kind => rw [translateStep, h, canonical_of_lookup (lookup_of_correction? h)]

/-- A scenario that is kept whole is one that the plain walk leaves alone. -/
theorem translateScenario_eq_mapKeywords (translator : Translator) (scenario : Scenario) :
    translator.translateScenario scenario = scenario.mapKeywords translator.canonical := by
  rw [translateScenario]
  split
  · rw [Scenario.mapKeywords, funext translator.translateStep_eq]
  · rename_i hnone
    refine (Scenario.mapKeywords_eq_self fun step hstep => ?_).symm
    have hstep_none : ¬(translator.correction? step).isSome = true := fun hsome =>
      hnone (List.any_eq_true.2 ⟨step, hstep, hsome⟩)
    exact correction?_eq_none_iff.1 (Option.not_isSome_iff_eq_none.1 hstep_none)

/-- **Translation is the plain walk.** -/
theorem translate_eq_mapKeywords (translator : Translator) (feature : Feature) :
    translator.translate feature = feature.mapKeywords translator.canonical := by
  rw [translate, Feature.mapKeywords, funext translator.translateScenario_eq_mapKeywords]

end Translator

/-! ### Languages of a lexicon -/

namespace Translator

/-- The languages of a lexicon are those that have a translator. -/
theorem exists_ofLexicon_eq_ok {lexicon : Lexicon} {code : String}
    (h : lexicon.contains code = true) : ∃ translator, ofLexicon lexicon code = .ok translator := by
  rw [Lexicon.contains_eq_isSome] at h
  obtain ⟨vocabulary, hget⟩ := Option.isSome_iff_exists.1 h
  exact ⟨ofVocabulary code vocabulary, by rw [ofLexicon, hget]⟩

theorem ofLexicon_eq_error {lexicon : Lexicon} {code : String}
    (h : lexicon.contains code = false) : ofLexicon lexicon code = .error ⟨code⟩ := by
  rw [Lexicon.contains_eq_isSome, Option.isSome_eq_false_iff, Option.isNone_iff_eq_none] at h
  rw [ofLexicon, h]

end Translator

/-- **Translation from a language of a lexicon** replaces each recognised keyword by the canonical
one, keeps the other keywords and touches nothing else; a language that the lexicon does not have is
reported by its code. -/
theorem Lexicon.translate_eq_plain_walk (lexicon : Lexicon) (code : String) (feature : Feature) :
    (lexicon.contains code = true →
      ∃ translator translated, Translator.ofLexicon lexicon code = .ok translator ∧
        lexicon.translate code feature = .ok translated ∧
        translated = feature.mapKeywords translator.canonical ∧ feature.Alike translated) ∧
    (lexicon.contains code = false → lexicon.translate code feature = .error ⟨code⟩) := by
  constructor
  · intro hknown
    obtain ⟨translator, htranslator⟩ := Translator.exists_ofLexicon_eq_ok hknown
    have hplain := translator.translate_eq_mapKeywords feature
    refine ⟨translator, translator.translate feature, htranslator, ?_, hplain, ?_⟩
    · rw [translate, htranslator]
      rfl
    · rw [hplain]
      exact feature.alike_mapKeywords translator.canonical
  · intro hunknown
    rw [translate, Translator.ofLexicon_eq_error hunknown]
    rfl

/-- A feature with keywords to rewrite, a bullet and a canonical keyword, in a language that is
known and in one that is not. -/
theorem Lexicon.translate_mixed_keywords :
    (∃ translated,
      (empty.insert "fr" ⟨["* ", "Soit "], [], [], ["Et "], []⟩).translate "fr"
        ⟨"Addition", none, [⟨"Ajouter", 3, [⟨"SOIT", "un", 4⟩, ⟨"*", "deux", 5⟩]⟩,
          ⟨"Rien", 7, [⟨"given", "trois", 8⟩]⟩], [⟨"Plan", 9, [⟨"et", "<a>", 10⟩]⟩]⟩ =
          .ok translated ∧
      translated.steps.map (·.keyword) = ["given", "*", "given", "and"]) ∧
    (empty.insert "fr" ⟨["* ", "Soit "], [], [], ["Et "], []⟩).translate "de" ⟨"", none, [], []⟩ =
      .error ⟨"de"⟩ := by
  constructor
  · obtain ⟨translator, translated, htranslator, htranslated, hplain, -⟩ :=
      (translate_eq_plain_walk (empty.insert "fr" ⟨["* ", "Soit "], [], [], ["Et "], []⟩) "fr"
        ⟨"Addition", none, [⟨"Ajouter", 3, [⟨"SOIT", "un", 4⟩, ⟨"*", "deux", 5⟩]⟩,
          ⟨"Rien", 7, [⟨"given", "trois", 8⟩]⟩], [⟨"Plan", 9, [⟨"et", "<a>", 10⟩]⟩]⟩).1
        (by decide)
    refine ⟨translated, htranslated, ?_⟩
    obtain rfl := Except.ok.inj htranslator
    rw [hplain]
    decide
  · exact (translate_eq_plain_walk _ "de" _).2 (by decide)

end FeaturePlan
