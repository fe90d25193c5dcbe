/-
Bullets are never translated.

A vocabulary may list bullets among its words, and a step may have one as its keyword.  Bullets are
left out by their spelling as it is given, and keywords are looked up by their normal form; but
neither trimming nor lowercasing **makes or removes a wildcard**.  So no keyword with a wildcard is
recognised, in any language, and a step that has one stays as it is.  The bullets of a vocabulary
are of no use to a translator: without them it is the same.

Main definition: `Vocabulary.withoutBullets`.

Main results:

* `wildcard_mem_normalSpelling_iff` — normal forms keep the wildcard;
* `Translator.lookup_eq_none_of_wildcard` — keywords with a wildcard are not recognised;
* `Translator.ofVocabulary_withoutBullets` — bullets may be left out of a vocabulary;
* `Translator.bullets_never_translate` — both together, for the languages of a lexicon.
-/

import FeaturePlan.Proofs.Recognition
import FeaturePlan.Proofs.Text.Lowercase
import FeaturePlan.Proofs.Translation

set_option relaxedAutoImplicit false
set_option autoImplicit false

namespace FeaturePlan

/-- A normal form has a wildcard iff the spelling has one. -/
theorem wildcard_mem_normalSpelling_iff {word : String} :
    wildcard ∈ (normalSpelling word).toList ↔ wildcard ∈ word.toList := by
  rw [normalSpelling, String.toList_ofList, Text.mem_lower_iff (by decide) (by decide),
    Text.mem_trimEnd_iff (by decide)]

/-! ### Vocabularies without bullets -/

namespace Vocabulary

/-- The vocabulary with those entries only that have no wildcard. -/
def withoutBullets (vocabulary : Vocabulary) : Vocabulary where
  context := vocabulary.context.filter fun word => wildcard ∉ word.toList
  action := vocabulary.action.filter fun word => wildcard ∉ word.toList
  outcome := vocabulary.outcome.filter fun word => wildcard ∉ word.toList
  conjunction := vocabulary.conjunction.filter fun word => wildcard ∉ word.toList
  contrast := vocabulary.contrast.filter fun word => wildcard ∉ word.toList

@[simp] theorem get_withoutBullets (vocabulary : Vocabulary) (kind : StepKind) :
    vocabulary.withoutBullets.get kind =
      (vocabulary.get kind).filter fun word => wildcard ∉ word.toList := by
  cases kind <;> rfl

/-- The words are those of the whole vocabulary. -/
theorem literals_withoutBullets (vocabulary : Vocabulary) :
    vocabulary.withoutBullets.literals = vocabulary.literals := by
  have hword : ∀ word : String,
      (isLiteral word && decide (wildcard ∉ word.toList)) = isLiteral word := by
    intro word
    simp [isLiteral]
  simp only [literals, get_withoutBullets, List.filter_filter, hword]

end Vocabulary

namespace Translator

/-! ### Keywords with a wildcard -/

/-- No language recognises a keyword with a wildcard. -/
theorem lookup_eq_none_of_wildcard (language : String) (vocabulary : Vocabulary) {keyword : String}
    (h : wildcard ∈ keyword.toList) : (ofVocabulary language vocabulary).lookup keyword = none := by
  rw [lookup, lastKind?_eq_none_iff]
  intro kind hentry
  obtain ⟨word, -, hliteral, hspelling⟩ := mem_entries_ofVocabulary.1 hentry
  -- the word has the normal form of the keyword, and so it has its wildcard
  rw [← wildcard_mem_normalSpelling_iff, ← hspelling, wildcard_mem_normalSpelling_iff] at h
  exact hliteral h

/-- Steps whose keywords are not recognised stay as they are. -/
theorem steps_translate_of_lookup_eq_none (translator : Translator) (feature : Feature) :
    List.Forall₂ (fun old new => translator.lookup old.keyword = none → new = old)
      feature.steps (translator.translate feature).steps := by
  rw [translate_eq_mapKeywords, Feature.steps_mapKeywords, List.forall₂_map_right_iff,
    List.forall₂_same]
  intro step _ hnone
  rw [canonical_of_lookup_none hnone]
  rfl

/-- The bullets of a vocabulary are of no use to a translator. -/
theorem ofVocabulary_withoutBullets (language : String) (vocabulary : Vocabulary) :
    ofVocabulary language vocabulary.withoutBullets = ofVocabulary language vocabulary := by
  rw [ofVocabulary, Vocabulary.literals_withoutBullets, ofVocabulary]

/-- **Bullets are never translated.**  In every language of a lexicon, a keyword with a wildcard is
not recognised and a step that has one stays as it is; and the language recognises the same keywords
and translates every feature in the same way if all bullets are deleted from its vocabulary. -/
theorem bullets_never_translate (lexicon : Lexicon) (code : String)
    (h : lexicon.contains code = true) :
    ∃ vocabulary translator, lexicon.get? code = some vocabulary ∧
      ofLexicon lexicon code = .ok translator ∧
      (∀ keyword : String, wildcard ∈ keyword.toList → translator.lookup keyword = none) ∧
      (∀ feature, List.Forall₂ (fun old new => wildcard ∈ old.keyword.toList → new = old)
        feature.steps (translator.translate feature).steps) ∧
      ∃ bare, ofLexicon (lexicon.insert code vocabulary.withoutBullets) code = .ok bare ∧
        (∀ keyword, bare.lookup keyword = translator.lookup keyword) ∧
        ∀ feature, bare.translate feature = translator.translate feature := by
  rw [Lexicon.contains_eq_isSome] at h
  obtain ⟨vocabulary, hget⟩ := Option.isSome_iff_exists.1 h
  have hlookup : ∀ keyword : String, wildcard ∈ keyword.toList →
      (ofVocabulary code vocabulary).lookup keyword = none := fun _ hkeyword =>
    lookup_eq_none_of_wildcard code vocabulary hkeyword
  refine ⟨vocabulary, ofVocabulary code vocabulary, hget, by rw [ofLexicon, hget], hlookup, ?_, ?_⟩
  · intro feature
    exact (steps_translate_of_lookup_eq_none _ feature).imp fun _ _ hstays hkeyword =>
      hstays (hlookup _ hkeyword)
  · refine ⟨ofVocabulary code vocabulary.withoutBullets,
      by rw [ofLexicon, Lexicon.get?_insert_self], ?_, ?_⟩
    · intro keyword
      rw [ofVocabulary_withoutBullets]
    · intro feature
      rw [ofVocabulary_withoutBullets]

/-- Bullets of several kinds, one of which is a word but for its wildcard, and a feature with a
bullet in front of a word. -/
theorem bullets_never_translate_french :
    ∃ translator bare,
      ofLexicon (Lexicon.empty.insert "fr"
        ⟨["* ", "Soit "], ["*"], [], [], ["soit*", "SOIT "]⟩) "fr" = .ok translator ∧
      ofLexicon ((Lexicon.empty.insert "fr"
          ⟨["* ", "Soit "], ["*"], [], [], ["soit*", "SOIT "]⟩).insert "fr"
        ⟨["Soit "], [], [], [], ["SOIT "]⟩) "fr" = .ok bare ∧
      translator.lookup "Soit*\u2003" = none ∧
      (translator.translate ⟨"", none, [⟨"", 1, [⟨"* İ", "a", 2⟩, ⟨"soit", "b", 3⟩]⟩], []⟩).steps =
        [⟨"* İ", "a", 2⟩, ⟨"but", "b", 3⟩] ∧
      ∀ feature, bare.translate feature = translator.translate feature := by
  obtain ⟨vocabulary, translator, hget, htranslator, hlookup, -, bare, hbare, -, htranslate⟩ :=
    bullets_never_translate
      (Lexicon.empty.insert "fr" ⟨["* ", "Soit "], ["*"], [], [], ["soit*", "SOIT "]⟩) "fr"
      (by rw [Lexicon.contains_eq_isSome, Lexicon.get?_insert_self]; rfl)
  have hwords : vocabulary.withoutBullets = ⟨["Soit "], [], [], [], ["SOIT "]⟩ := by
    rw [Lexicon.get?_insert_self] at hget
    obtain rfl := Option.some.inj hget
    decide
  rw [hwords] at hbare
  refine ⟨translator, bare, htranslator, hbare, hlookup _ (by decide), ?_, htranslate⟩
  rw [ofLexicon, Lexicon.get?_insert_self] at htranslator
  obtain rfl := Except.ok.inj htranslator
  decide +kernel

end Translator

end FeaturePlan
