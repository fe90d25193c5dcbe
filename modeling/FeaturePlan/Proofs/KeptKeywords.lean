/-
The keywords that a feature keeps are still recognised.

Reading a feature file puts the keyword of each step into small letters, without blanks at its ends;
recognising a keyword puts it into small letters, without blanks at the end.  The second form is
taken of the first, and **nothing is lost between the two**: unless a keyword begins with a blank,
it is recognised as the same kind before and after reading.

No spelling in the catalogue begins with a blank.  So whatever words of a built-in language a file
uses, translation leaves only canonical keywords.

Main definition: `startsBlank`.

Main results:

* `normalSpelling_plainKeyword` — the two forms agree;
* `Translator.lookup_isSome_of_mem` — every word of a vocabulary is recognised;
* `Translator.kept_keywords_recognised` — both together, and what follows for built-in languages.
-/

import FeaturePlan.Gherkin.Document
import FeaturePlan.Proofs.Recognition
import FeaturePlan.Proofs.Text.Lowercase
import FeaturePlan.Proofs.Translation

set_option relaxedAutoImplicit false
set_option autoImplicit false

namespace FeaturePlan

/-- Whether a word begins with a blank. -/
def startsBlank (word : String) : Bool := word.front?.any Text.isBlank

/-! ### The two forms -/

theorem trim_eq_trimEnd {word : String} (h : startsBlank word = false) :
    Text.trim word.toList = Text.trimEnd word.toList := by
  rw [startsBlank, String.front?_eq] at h
  rw [Text.trim, Text.trimStart]
  cases hword : word.toList with
  | nil => rfl
  | cons c rest =>
      rw [hword] at h
      rw [List.dropWhile_cons_of_neg (by simpa using h)]

/-- The normal form of the keyword that a feature keeps is that of the keyword in the file. -/
theorem normalSpelling_plainKeyword {word : String} (h : startsBlank word = false) :
    normalSpelling (Gherkin.plainKeyword word) = normalSpelling word := by
  rw [normalSpelling, Gherkin.plainKeyword, String.toList_ofList, trim_eq_trimEnd h,
    Text.trimEnd_lower_trimEnd, Text.lower_lower]
  rfl

namespace Translator

theorem lookup_plainKeyword (translator : Translator) {word : String}
    (h : startsBlank word = false) :
    translator.lookup (Gherkin.plainKeyword word) = translator.lookup word := by
  rw [lookup, normalSpelling_plainKeyword h]
  rfl

/-! ### Words of a vocabulary -/

/-- Every word of a vocabulary is recognised, if not always as the kind under which it stands. -/
theorem lookup_isSome_of_mem {language word : String} {vocabulary : Vocabulary} {kind : StepKind}
    (hword : word ∈ vocabulary.get kind) (hliteral : wildcard ∉ word.toList) :
    ((ofVocabulary language vocabulary).lookup word).isSome = true := by
  have hentry : (normalSpelling word, kind) ∈ (ofVocabulary language vocabulary).entries :=
    mem_entries_ofVocabulary.2 ⟨word, hword, hliteral, rfl⟩
  rw [Option.isSome_iff_ne_none]
  intro hnone
  exact lastKind?_eq_none_iff.1 hnone kind hentry

theorem canonical_of_isSome {translator : Translator} {keyword : String}
    (h : (translator.lookup keyword).isSome = true) :
    ∃ kind : StepKind, translator.canonical keyword = kind.keyword := by
  obtain ⟨kind, hkind⟩ := Option.isSome_iff_exists.1 h
  exact ⟨kind, canonical_of_lookup hkind⟩

end Translator

/-! ### Built-in languages -/

theorem catalogue_startsBlank :
    (Dialect.catalogue.all fun dialect => StepKind.all.all fun kind =>
      (dialect.steps.get kind).all fun word => !startsBlank word) = true := by
  decide +kernel

/-- No spelling of a built-in language begins with a blank. -/
theorem startsBlank_of_mem_builtin {code word : String} {vocabulary : Vocabulary} {kind : StepKind}
    (h : Lexicon.builtin.get? code = some vocabulary) (hword : word ∈ vocabulary.get kind) :
    startsBlank word = false := by
  obtain ⟨dialect, hdialect, -, rfl⟩ := Lexicon.exists_dialect_of_get?_builtin h
  have hkinds := List.all_eq_true.1 catalogue_startsBlank dialect hdialect
  have hwords := List.all_eq_true.1 hkinds kind (StepKind.mem_all kind)
  simpa using List.all_eq_true.1 hwords word hword

theorem keyword_mem_canonical (kind : StepKind) :
    kind.keyword ∈ ["given", "when", "then", "and", "but"] := by
  cases kind <;> simp [StepKind.keyword]

namespace Translator

/-- A feature that keeps words of a built-in language has nothing but canonical keywords once it is
translated. -/
theorem keyword_of_mem_translate_builtin {code : String} {vocabulary : Vocabulary}
    {feature : Feature} (h : Lexicon.builtin.get? code = some vocabulary)
    (hfeature : ∀ step ∈ feature.steps, ∃ kind, ∃ word ∈ vocabulary.get kind,
      wildcard ∉ word.toList ∧ step.keyword = Gherkin.plainKeyword word) :
    ∀ step ∈ ((ofVocabulary code vocabulary).translate feature).steps,
      step.keyword ∈ ["given", "when", "then", "and", "but"] := by
  intro step hstep
  rw [translate_eq_mapKeywords, Feature.steps_mapKeywords] at hstep
  obtain ⟨before, hbefore, rfl⟩ := List.mem_map.1 hstep
  obtain ⟨kind, word, hword, hliteral, hkept⟩ := hfeature before hbefore
  have hsome : ((ofVocabulary code vocabulary).lookup before.keyword).isSome = true := by
    rw [hkept, lookup_plainKeyword _ (startsBlank_of_mem_builtin h hword)]
    exact lookup_isSome_of_mem hword hliteral
  obtain ⟨found, hfound⟩ := canonical_of_isSome hsome
  change (ofVocabulary code vocabulary).canonical before.keyword ∈ _
  rw [hfound]
  exact keyword_mem_canonical found

/-- **The keywords that a feature keeps are recognised as those in the file.**  This holds for every
language of every lexicon and every keyword that does not begin with a blank; so every word of the
language that does not is recognised when read from a file.  In the built-in languages every word
is, and translation leaves only canonical keywords. -/
theorem kept_keywords_recognised :
    (∀ lexicon code, Lexicon.contains lexicon code = true →
      ∃ vocabulary translator, lexicon.get? code = some vocabulary ∧
        ofLexicon lexicon code = .ok translator ∧
        (∀ word, startsBlank word = false →
          translator.lookup (Gherkin.plainKeyword word) = translator.lookup word) ∧
        (∀ (node : Gherkin.StepNode) kind, node.keyword ∈ vocabulary.get kind →
          wildcard ∉ node.keyword.toList → startsBlank node.keyword = false →
          ∃ found, translator.lookup node.toStep.keyword = some found)) ∧
    (∀ code, Lexicon.builtin.contains code = true →
      ∃ vocabulary, Lexicon.builtin.get? code = some vocabulary ∧
        ∀ feature : Feature,
          (∀ step ∈ feature.steps, ∃ kind, ∃ word ∈ vocabulary.get kind,
            wildcard ∉ word.toList ∧ step.keyword = Gherkin.plainKeyword word) →
          ∃ translated, Lexicon.builtin.translate code feature = .ok translated ∧
            ∀ step ∈ translated.steps,
              step.keyword ∈ ["given", "when", "then", "and", "but"]) := by
  constructor
  · intro lexicon code hknown
    rw [Lexicon.contains_eq_isSome] at hknown
    obtain ⟨vocabulary, hget⟩ := Option.isSome_iff_exists.1 hknown
    refine ⟨vocabulary, ofVocabulary code vocabulary, hget, by rw [ofLexicon, hget],
      fun word hstart => lookup_plainKeyword _ hstart, ?_⟩
    intro node kind hword hliteral hstart
    have hsome : ((ofVocabulary code vocabulary).lookup node.keyword).isSome = true :=
      lookup_isSome_of_mem hword hliteral
    rw [← lookup_plainKeyword _ hstart] at hsome
    exact Option.isSome_iff_exists.1 hsome
  · intro code hknown
    rw [Lexicon.contains_eq_isSome] at hknown
    obtain ⟨vocabulary, hget⟩ := Option.isSome_iff_exists.1 hknown
    refine ⟨vocabulary, hget, fun feature hfeature => ?_⟩
    refine ⟨(ofVocabulary code vocabulary).translate feature, ?_,
      keyword_of_mem_translate_builtin hget hfeature⟩
    rw [Lexicon.translate, ofLexicon, hget]
    rfl

/-- A word with a dotted capital and a sigma before the trimmed blank, and a feature with a French
step. -/
theorem kept_keywords_sigma_and_french :
    (∃ vocabulary translator,
      (Lexicon.empty.insert "x" ⟨["İΣ "], [], [], [], []⟩).get? "x" = some vocabulary ∧
      ofLexicon (Lexicon.empty.insert "x" ⟨["İΣ "], [], [], [], []⟩) "x" = .ok translator ∧
      translator.lookup (Gherkin.plainKeyword "İΣ  ") = translator.lookup "İΣ  " ∧
      ∃ found, translator.lookup (Gherkin.StepNode.toStep ⟨"İΣ ", "a", 1⟩).keyword = some found) ∧
    ∃ translated,
      Lexicon.builtin.translate "fr" ⟨"", none, [⟨"", 1, [⟨"soit", "a", 2⟩]⟩], []⟩ =
        .ok translated ∧
      ∀ step ∈ translated.steps, step.keyword ∈ ["given", "when", "then", "and", "but"] := by
  constructor
  · obtain ⟨vocabulary, translator, hget, htranslator, hsame, hkept⟩ :=
      kept_keywords_recognised.1 (Lexicon.empty.insert "x" ⟨["İΣ "], [], [], [], []⟩) "x"
        (by decide +kernel)
    refine ⟨vocabulary, translator, hget, htranslator, hsame _ (by decide +kernel), ?_⟩
    rw [Lexicon.get?_insert_self] at hget
    obtain rfl := Option.some.inj hget
    exact hkept ⟨"İΣ ", "a", 1⟩ .context (by decide +kernel) (by decide +kernel) (by decide +kernel)
  · obtain ⟨vocabulary, hget, htranslate⟩ := kept_keywords_recognised.2 "fr" (by decide +kernel)
    have hfrench : Lexicon.builtin.get? "fr" = some Dialect.french.steps := by decide +kernel
    obtain rfl := Option.some.inj (hfrench.symm.trans hget)
    refine htranslate _ fun step hstep => ⟨.context, "Soit ", ?_, ?_, ?_⟩
    · decide +kernel
    · decide +kernel
    · obtain rfl := List.mem_singleton.1 hstep
      decide +kernel

end Translator

end FeaturePlan
