/-
When canonical keywords stay as they are.

Translating twice need not be translating once: a lexicon may list the canonical spelling of one
kind under another kind, and then the second translation changes what the first one wrote.  That is
the **only** way in which it can fail.  A translator is **settled** if it recognises the canonical
spelling of each kind that it writes as this kind or not at all.

In the catalogue a canonical spelling stands under its own kind only, in every language.  So all
built-in languages are settled, and none of them changes what another one wrote.

Main definition: `Translator.Settled`.

Main results:

* `Translator.settled_iff_canonical`, `Translator.settled_iff_translate` — being settled is
  idempotence, on keywords and on features;
* `Translator.canonical_keyword_of_builtin` — no built-in language changes a canonical spelling;
* `Translator.canonical_keywords_stay` — both together, and what follows for two languages.
-/

import FeaturePlan.Proofs.LexiconEntries
import FeaturePlan.Proofs.Recognition
import FeaturePlan.Proofs.Text.PlainWords
import FeaturePlan.Proofs.Translation

set_option relaxedAutoImplicit false
set_option autoImplicit false

namespace FeaturePlan

/-! ### Walking twice -/

theorem Scenario.mapKeywords_mapKeywords (f g : String → String) (scenario : Scenario) :
    (scenario.mapKeywords f).mapKeywords g = scenario.mapKeywords (g ∘ f) := by
  simp only [mapKeywords, List.map_map]
  rfl

/-- Two walks are one walk with both functions. -/
theorem Feature.mapKeywords_mapKeywords (f g : String → String) (feature : Feature) :
    (feature.mapKeywords f).mapKeywords g = feature.mapKeywords (g ∘ f) := by
  have hscenario : Scenario.mapKeywords g ∘ Scenario.mapKeywords f =
      Scenario.mapKeywords (g ∘ f) := funext (Scenario.mapKeywords_mapKeywords f g)
  simp only [mapKeywords, List.map_map, hscenario]

/-- The feature with a single step, which has the given keyword. -/
def Feature.ofKeyword (keyword : String) : Feature :=
  { title := "", scenarios := [{ title := "", line := 1, steps := [⟨keyword, "", 2⟩] }] }

/-- Walks that agree on every feature agree on every keyword. -/
theorem Feature.mapKeywords_inj {f g : String → String}
    (h : ∀ feature : Feature, feature.mapKeywords f = feature.mapKeywords g) : f = g := by
  funext keyword
  have hsteps := congrArg Feature.steps (h (.ofKeyword keyword))
  rw [steps_mapKeywords, steps_mapKeywords] at hsteps
  exact congrArg Step.keyword (List.cons.inj hsteps).1

theorem StepKind.keyword_injective {a b : StepKind} (h : a.keyword = b.keyword) : a = b := by
  have hkind := ofKeyword_keyword a
  rw [h, ofKeyword_keyword] at hkind
  exact (Except.ok.inj hkind).symm

namespace Translator

variable {translator : Translator}

/-! ### Settled translators -/

/-- The canonical spelling of each kind that the translator writes is recognised as this kind or not
at all. -/
def Settled (translator : Translator) : Prop :=
  ∀ kind, (∃ keyword, translator.lookup keyword = some kind) →
    translator.lookup kind.keyword = none ∨ translator.lookup kind.keyword = some kind

/-- A canonical spelling stays iff it is recognised as its own kind or not at all. -/
theorem canonical_keyword_iff {kind : StepKind} :
    translator.canonical kind.keyword = kind.keyword ↔
      translator.lookup kind.keyword = none ∨ translator.lookup kind.keyword = some kind := by
  cases h : translator.lookup kind.keyword with
  | none => simp [canonical_of_lookup_none h]
  | some found =>
      rw [canonical_of_lookup h]
      constructor
      · intro hfound
        exact Or.inr (congrArg some (StepKind.keyword_injective hfound))
      · rintro (hnone | hsome)
        · cases hnone
        · rw [Option.some.inj hsome]

/-- A settled translator leaves alone what it wrote, and no other translator does. -/
theorem settled_iff_canonical :
    translator.Settled ↔
      ∀ keyword, translator.canonical (translator.canonical keyword) =
        translator.canonical keyword := by
  constructor
  · intro h keyword
    cases hfound : translator.lookup keyword with
    | none => rw [canonical_of_lookup_none hfound, canonical_of_lookup_none hfound]
    | some kind =>
        rw [canonical_of_lookup hfound]
        exact canonical_keyword_iff.2 (h kind ⟨keyword, hfound⟩)
  · rintro h kind ⟨keyword, hfound⟩
    have hstays := h keyword
    rw [canonical_of_lookup hfound] at hstays
    exact canonical_keyword_iff.1 hstays

/-- **Translating twice is translating once** iff the translator is settled. -/
theorem settled_iff_translate :
    translator.Settled ↔
      ∀ feature, translator.translate (translator.translate feature) =
        translator.translate feature := by
  simp only [settled_iff_canonical, translate_eq_mapKeywords, Feature.mapKeywords_mapKeywords]
  constructor
  · intro h feature
    have htwice : translator.canonical ∘ translator.canonical = translator.canonical := funext h
    rw [htwice]
  · intro h keyword
    exact congrFun (Feature.mapKeywords_inj h) keyword

/-- If the second of two translators changes no canonical spelling, then what the first one wrote is
what remains. -/
theorem steps_translate_translate {before after : Translator}
    (h : ∀ kind : StepKind, after.canonical kind.keyword = kind.keyword) (feature : Feature) :
    List.Forall₂ (fun old new => ∀ kind, before.lookup old.keyword = some kind →
        new = old.withKeyword kind.keyword)
      feature.steps (after.translate (before.translate feature)).steps := by
  rw [translate_eq_mapKeywords, translate_eq_mapKeywords, Feature.mapKeywords_mapKeywords,
    Feature.steps_mapKeywords, List.forall₂_map_right_iff, List.forall₂_same]
  intro step _ kind hkind
  rw [Function.comp_apply, canonical_of_lookup hkind, h kind]

end Translator

/-! ### Canonical spellings in the catalogue -/

theorem normalSpelling_keyword (kind : StepKind) : normalSpelling kind.keyword = kind.keyword := by
  cases kind <;> decide

theorem isPlainWord_keyword (kind : StepKind) : Text.isPlainWord kind.keyword.toList = true := by
  cases kind <;> decide

/-- A word with a canonical spelling as its normal form has the letters of this spelling. -/
theorem letters_of_normalSpelling {word : String} {kind : StepKind}
    (h : normalSpelling word = kind.keyword) :
    (Text.trimEnd word.toList).map Char.toLower = kind.keyword.toList := by
  have hlower : Text.lower (Text.trimEnd word.toList) = kind.keyword.toList := by
    rw [← h, normalSpelling, String.toList_ofList]
  exact Text.map_toLower_of_lower (Text.isPlain_of_isPlainWord (isPlainWord_keyword kind)) hlower

/-- Whether a word begins with a letter with which a canonical spelling begins. -/
def startsCanonical (word : String) : Bool :=
  word.front?.any fun c => ['g', 'w', 't', 'a', 'b'].contains c.toLower

theorem head_keyword_mem {kind : StepKind} {c : Char} (h : kind.keyword.toList.head? = some c) :
    c ∈ ['g', 'w', 't', 'a', 'b'] := by
  have hheads : kind.keyword.toList.head?.all (['g', 'w', 't', 'a', 'b'].contains ·) = true := by
    cases kind <;> decide
  rw [h] at hheads
  exact List.contains_iff_mem.1 hheads

theorem startsCanonical_of_letters {word : String} {kind : StepKind}
    (h : (Text.trimEnd word.toList).map Char.toLower = kind.keyword.toList) :
    startsCanonical word = true := by
  have hsome : Text.trimEnd word.toList ≠ [] := by
    intro hnone
    rw [hnone] at h
    cases kind <;> exact absurd h (by decide)
  rw [startsCanonical, String.front?_eq]
  cases hword : word.toList with
  | nil => exact absurd (congrArg Text.trimEnd hword) hsome
  | cons c rest =>
      rw [hword] at h hsome
      obtain ⟨kept, hkept⟩ := Text.exists_trimEnd_eq_cons hsome
      rw [hkept, List.map_cons] at h
      have hhead : kind.keyword.toList.head? = some c.toLower := by rw [← h, List.head?_cons]
      exact List.contains_iff_mem.2 (head_keyword_mem hhead)

/-- Most words are told apart from the canonical spellings by their first letters. -/
theorem catalogue_canonical_spellings :
    (Dialect.catalogue.all fun dialect => StepKind.all.all fun kind =>
      (dialect.steps.get kind).all fun word => !startsCanonical word ||
        StepKind.all.all fun other =>
          (Text.trimEnd word.toList).map Char.toLower != other.keyword.toList || kind == other) =
      true := by
  decide +kernel

/-- In every built-in language a canonical spelling stands under its own kind only. -/
theorem kind_of_mem_builtin {code word : String} {vocabulary : Vocabulary} {kind other : StepKind}
    (h : Lexicon.builtin.get? code = some vocabulary) (hword : word ∈ vocabulary.get kind)
    (hspelling : normalSpelling word = other.keyword) : kind = other := by
  obtain ⟨dialect, hdialect, -, rfl⟩ := Lexicon.exists_dialect_of_get?_builtin h
  have hletters := letters_of_normalSpelling hspelling
  have hkinds := List.all_eq_true.1 catalogue_canonical_spellings dialect hdialect
  have hwords := List.all_eq_true.1 hkinds kind (StepKind.mem_all kind)
  have hchecked := List.all_eq_true.1 hwords word hword
  rw [startsCanonical_of_letters hletters, Bool.not_true, Bool.false_or] at hchecked
  simpa [hletters] using List.all_eq_true.1 hchecked other (StepKind.mem_all other)

namespace Translator

/-- No built-in language changes a canonical spelling. -/
theorem canonical_keyword_of_builtin {code : String} {vocabulary : Vocabulary}
    (h : Lexicon.builtin.get? code = some vocabulary) (kind : StepKind) :
    (ofVocabulary code vocabulary).canonical kind.keyword = kind.keyword := by
  refine canonical_keyword_iff.2 ?_
  cases hfound : (ofVocabulary code vocabulary).lookup kind.keyword with
  | none => exact Or.inl rfl
  | some found =>
      rw [lookup, normalSpelling_keyword] at hfound
      obtain ⟨word, hword, -, hspelling⟩ := mem_entries_ofVocabulary.1 (mem_of_lastKind? hfound)
      rw [kind_of_mem_builtin h hword hspelling]
      exact Or.inr rfl

/-- **Canonical keywords stay as they are.**  Translating twice from a language of a lexicon is
translating once, for every feature, iff the language is settled.  The built-in languages are, and
what one of them wrote in the place of a keyword is what remains if another one follows. -/
theorem canonical_keywords_stay :
    (∀ lexicon code, Lexicon.contains lexicon code = true →
      ∃ translator, ofLexicon lexicon code = .ok translator ∧
        ((∀ feature, translator.translate (translator.translate feature) =
            translator.translate feature) ↔ translator.Settled)) ∧
    (∀ code other, Lexicon.builtin.contains code = true → Lexicon.builtin.contains other = true →
      ∃ before after, ofLexicon .builtin code = .ok before ∧ ofLexicon .builtin other = .ok after ∧
        before.Settled ∧
        ∀ feature, before.translate (before.translate feature) = before.translate feature ∧
          List.Forall₂ (fun old new => ∀ kind, before.lookup old.keyword = some kind →
              new = old.withKeyword kind.keyword)
            feature.steps (after.translate (before.translate feature)).steps) := by
  constructor
  · intro lexicon code hknown
    obtain ⟨translator, htranslator⟩ := exists_ofLexicon_eq_ok hknown
    exact ⟨translator, htranslator, settled_iff_translate.symm⟩
  · intro code other hknown hother
    rw [Lexicon.contains_eq_isSome] at hknown hother
    obtain ⟨vocabulary, hget⟩ := Option.isSome_iff_exists.1 hknown
    obtain ⟨vocabulary', hget'⟩ := Option.isSome_iff_exists.1 hother
    have hsettled : (ofVocabulary code vocabulary).Settled := fun kind _ =>
      canonical_keyword_iff.1 (canonical_keyword_of_builtin hget kind)
    refine ⟨ofVocabulary code vocabulary, ofVocabulary other vocabulary', by rw [ofLexicon, hget],
      by rw [ofLexicon, hget'], hsettled, fun feature => ⟨?_, ?_⟩⟩
    · exact settled_iff_translate.1 hsettled feature
    · exact steps_translate_translate (canonical_keyword_of_builtin hget') feature

/-- A language with the canonical word for one kind among the words for another, and a French
keyword translated again from Australian English. -/
theorem canonical_keywords_stay_french :
    (∃ translator,
      ofLexicon (Lexicon.empty.insert "x" ⟨["Soit "], ["GIVEN"], [], [], []⟩) "x" =
        .ok translator ∧
      ¬∀ feature, translator.translate (translator.translate feature) =
        translator.translate feature) ∧
    ∃ before after, ofLexicon .builtin "fr" = .ok before ∧ ofLexicon .builtin "en-au" = .ok after ∧
      (after.translate (before.translate (.ofKeyword "SOIT"))).steps = [⟨"given", "", 2⟩] := by
  constructor
  · obtain ⟨translator, htranslator, hiff⟩ := canonical_keywords_stay.1
      (Lexicon.empty.insert "x" ⟨["Soit "], ["GIVEN"], [], [], []⟩) "x" (by decide +kernel)
    refine ⟨translator, htranslator, fun htwice => ?_⟩
    rw [ofLexicon, Lexicon.get?_insert_self] at htranslator
    obtain rfl := Except.ok.inj htranslator
    have hsoit : (ofVocabulary "x" ⟨["Soit "], ["GIVEN"], [], [], []⟩).lookup "soit" =
        some .context := by decide +kernel
    have hgiven : (ofVocabulary "x" ⟨["Soit "], ["GIVEN"], [], [], []⟩).lookup "given" =
        some .action := by decide +kernel
    have hsettled := hiff.1 htwice .context ⟨"soit", hsoit⟩
    rw [StepKind.keyword, hgiven] at hsettled
    simp at hsettled
  · have hfrench : Lexicon.builtin.get? "fr" = some Dialect.french.steps :=
      Lexicon.get?_builtin_of_mem Dialect.french_mem
    have haustralian : Lexicon.builtin.get? "en-au" = some Dialect.australian.steps :=
      Lexicon.get?_builtin_of_mem Dialect.australian_mem
    obtain ⟨before, after, hbefore, hafter, -, htwice⟩ :=
      canonical_keywords_stay.2 "fr" "en-au" (by rw [Lexicon.contains_eq_isSome, hfrench]; rfl)
        (by rw [Lexicon.contains_eq_isSome, haustralian]; rfl)
    have hsoit : before.lookup "SOIT" = some .context := by
      rw [ofLexicon, hfrench] at hbefore
      obtain rfl := Except.ok.inj hbefore
      decide +kernel
    refine ⟨before, after, hbefore, hafter, ?_⟩
    obtain ⟨-, hsteps⟩ := htwice (.ofKeyword "SOIT")
    obtain ⟨step, rest, hstep, hrest, hall⟩ := List.forall₂_cons_left_iff.1 hsteps
    obtain rfl := List.forall₂_nil_left_iff.1 hrest
    rw [hall, hstep .context hsoit]
    rfl

end Translator

end FeaturePlan
