/-
Languages whose keywords are the canonical ones.

In English a step keyword **is** the canonical spelling of its kind, and so it is in the language
of formal proof.  There are two ways to read such a keyword: a translator looks its normal form up
among the spellings of the language, and `StepKind.ofKeyword` compares its letters with those of
each kind.  One of them knows the small letters of all scripts and the other one those of ASCII,
one of them trims one end and the other one both; yet they agree on every word that does not begin
with a blank.

Main definition: `Translator.Canonical`.

Main results:

* `StepKind.ofKeyword_eq_ok_iff` — which words name a kind;
* `Translator.Canonical.lookup_eq_some_iff` — which words are recognised;
* `Translator.english_keywords_are_canonical` — the two agree in English and in formal proof.
-/

import FeaturePlan.Proofs.CanonicalKeywords
import FeaturePlan.Proofs.KeptKeywords

set_option relaxedAutoImplicit false
set_option autoImplicit false

namespace FeaturePlan

/-! ### Words that name a kind -/

namespace StepKind

variable {word : String} {kind : StepKind}

theorem sameLetters_keyword_iff {cs : List Char} :
    Text.sameLetters cs kind.keyword.toList = true ↔ Text.lower cs = kind.keyword.toList :=
  (Text.lower_eq_iff_sameLetters (isPlainWord_keyword kind)).symm

/-- A word names the kind whose canonical spelling it is in small letters, without blanks at its
ends. -/
theorem ofKeyword_eq_ok_iff :
    ofKeyword word = .ok kind ↔ Text.lower (Text.trim word.toList) = kind.keyword.toList := by
  rw [ofKeyword]
  cases hfound : all.find? fun kind =>
      Text.sameLetters (Text.trim word.toList) kind.keyword.toList with
  | none =>
      have hnone := List.find?_eq_none.1 hfound kind (mem_all kind)
      rw [sameLetters_keyword_iff] at hnone
      exact iff_of_false nofun hnone
  | some found =>
      have hletters : Text.lower (Text.trim word.toList) = found.keyword.toList := by
        have hmatch := List.find?_some hfound
        exact sameLetters_keyword_iff.1 hmatch
      rw [hletters, Except.ok.injEq]
      constructor
      · rintro rfl
        rfl
      · intro hsame
        exact keyword_injective (String.toList_injective hsame)

/-- A word is rejected if it names no kind. -/
theorem ofKeyword_error_iff :
    (∃ e, ofKeyword word = .error e) ↔ ∀ kind, ofKeyword word ≠ .ok kind := by
  cases h : ofKeyword word with
  | ok kind => exact iff_of_false nofun fun hnone => hnone kind rfl
  | error e => exact iff_of_true ⟨e, rfl⟩ nofun

end StepKind

/-! ### Two languages of the catalogue -/

theorem Dialect.english_mem : Dialect.english ∈ Dialect.catalogue := by
  simp only [catalogue, englishFamily, List.mem_append, List.mem_cons, true_or]

theorem Dialect.formal_mem : Dialect.formal ∈ Dialect.catalogue := by
  simp only [catalogue, inventedFamily, List.mem_append, List.mem_cons, true_or, or_true]

namespace Translator

/-! ### Canonical languages -/

/-- The language spells each kind in the canonical way and in no other. -/
def Canonical (translator : Translator) : Prop :=
  ∀ spelling kind, (spelling, kind) ∈ translator.entries ↔ spelling = StepKind.keyword kind

variable {translator : Translator} {word : String}

/-- A canonical language recognises a word iff its normal form is a canonical spelling. -/
theorem Canonical.lookup_eq_some_iff (h : translator.Canonical) {kind : StepKind} :
    translator.lookup word = some kind ↔ normalSpelling word = kind.keyword := by
  constructor
  · intro hfound
    exact (h _ _).1 (mem_of_lastKind? hfound)
  · intro hspelling
    cases hfound : translator.lookup word with
    | none => exact absurd ((h _ _).2 hspelling) (lastKind?_eq_none_iff.1 hfound kind)
    | some found =>
        -- the spelling that was found spells one kind only
        have hother := (h _ _).1 (mem_of_lastKind? hfound)
        rw [StepKind.keyword_injective (hother.symm.trans hspelling)]

/-- A canonical language recognises the words that name a kind, as this kind. -/
theorem Canonical.lookup_eq_some_iff_ofKeyword (h : translator.Canonical)
    (hword : startsBlank word = false) {kind : StepKind} :
    translator.lookup word = some kind ↔ StepKind.ofKeyword word = .ok kind := by
  rw [h.lookup_eq_some_iff, StepKind.ofKeyword_eq_ok_iff, trim_eq_trimEnd hword, normalSpelling,
    ← String.toList_inj, String.toList_ofList]

/-- A canonical language does not recognise the words that name no kind. -/
theorem Canonical.lookup_eq_none_iff_ofKeyword (h : translator.Canonical)
    (hword : startsBlank word = false) :
    translator.lookup word = none ↔ ∃ e, StepKind.ofKeyword word = .error e := by
  rw [StepKind.ofKeyword_error_iff, Option.eq_none_iff_forall_ne_some]
  exact forall_congr' fun kind => not_congr (h.lookup_eq_some_iff_ofKeyword hword)

/-! ### English and formal proof -/

/-- A dialect that spells each kind canonically, bullets apart, is canonical as a language of the
built-in lexicon. -/
theorem exists_canonical_of_mem {dialect : Dialect} (h : dialect ∈ Dialect.catalogue)
    (hentries : (ofVocabulary dialect.code dialect.steps).entries =
      StepKind.all.map fun kind => (kind.keyword, kind)) :
    ∃ translator, ofLexicon .builtin dialect.code = .ok translator ∧ translator.Canonical := by
  refine ⟨ofVocabulary dialect.code dialect.steps, ?_, fun spelling kind => ?_⟩
  · rw [ofLexicon, Lexicon.get?_builtin_of_mem h]
  · rw [hentries, List.mem_map]
    constructor
    · rintro ⟨kind, -, heq⟩
      obtain ⟨rfl, rfl⟩ := Prod.mk.inj heq
      rfl
    · rintro rfl
      exact ⟨kind, StepKind.mem_all kind, rfl⟩

theorem exists_canonical_builtin : ∀ code ∈ ["en", "formal"],
    ∃ translator, ofLexicon .builtin code = .ok translator ∧ translator.Canonical := by
  intro code hcode
  simp only [List.mem_cons, List.not_mem_nil, or_false] at hcode
  rcases hcode with rfl | rfl
  · exact exists_canonical_of_mem Dialect.english_mem (by decide)
  · exact exists_canonical_of_mem Dialect.formal_mem (by decide)

/-- **In English and in formal proof the keywords are the canonical ones.**  A word that does not
begin with a blank is recognised as a kind iff it names this kind, and it is not recognised iff it
names none. -/
theorem english_keywords_are_canonical :
    ∀ code ∈ ["en", "formal"], ∃ translator, ofLexicon .builtin code = .ok translator ∧
      ∀ word, startsBlank word = false →
        (∀ kind, translator.lookup word = some kind ↔ StepKind.ofKeyword word = .ok kind) ∧
        (translator.lookup word = none ↔ ∃ e, StepKind.ofKeyword word = .error e) := by
  intro code hcode
  obtain ⟨translator, htranslator, hcanonical⟩ := exists_canonical_builtin code hcode
  refine ⟨translator, htranslator, fun word hword => ⟨fun kind => ?_, ?_⟩⟩
  · exact hcanonical.lookup_eq_some_iff_ofKeyword hword
  · exact hcanonical.lookup_eq_none_iff_ofKeyword hword

/-- A keyword with an em space behind it, and a word that looks like a keyword but begins with a
letter of another script. -/
theorem english_keywords_are_canonical_then :
    ∃ translator, ofLexicon .builtin "formal" = .ok translator ∧
      translator.lookup "tHEN\u2003" = some .outcome ∧ translator.lookup "\u0410nd" = none := by
  obtain ⟨translator, htranslator, hagrees⟩ := english_keywords_are_canonical "formal" (by decide)
  refine ⟨translator, htranslator, ?_, ?_⟩
  · exact ((hagrees "tHEN\u2003" (by decide)).1 .outcome).2 rfl
  · exact (hagrees "\u0410nd" (by decide)).2.2 ⟨_, rfl⟩

end Translator

end FeaturePlan
