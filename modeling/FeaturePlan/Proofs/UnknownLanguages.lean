/-
What comes of a language that the lexicon does not know.

A text may declare a language without a vocabulary.  Then the run warns **once**, its result carries
one notice, and apart from these two it is the run of a toolchain that knows the language and no
word of it: the same calls of the helpers, on the same features, and the same output or failure.  In
every other case there is neither notice nor warning, whatever language the feature itself claims.

Main definitions:

* `Run.warnings`, the events of a run that ask for attention, and `Run.Quiet`, a run without any;
* `Toolchain.withBareLanguage`, the toolchain that knows a language but no word of it.

Main results:

* `Toolchain.warnings_run_of_parsed` — what a run warns of;
* `Generates.notices_eq`, `Toolchain.notices_of_result` — where the notices of a result come from;
* `Lexicon.translateDeclared_insert_empty` — a language without words changes no feature;
* `Toolchain.unknown_language_is_notice` — what an unknown language changes, and what it does not.
-/

import FeaturePlan.Proofs.Headers
import FeaturePlan.Proofs.RunEvents

set_option relaxedAutoImplicit false
set_option autoImplicit false

namespace FeaturePlan

/-! ### Warnings in a run -/

namespace Run

variable {υ ε α : Type}

/-- The events of a run that ask for attention, in order. -/
def warnings (run : Run υ ε α) : List Event := run.events.filter fun event => event.level = .warn

/-- A run in which nothing asks for attention. -/
def Quiet (run : Run υ ε α) : Prop := run.warnings = []

end Run

namespace Toolchain

/-! ### What translation warns of -/

variable {υ π γ φ : Type} {tools : Toolchain υ π γ φ} {text : String} {parsed : Feature}

theorem warnings_translate_of_unknown {ε : Type} {lexicon : Lexicon} {code : String}
    (h : lexicon.contains code = false) (feature : Feature) :
    (translate lexicon (some code) feature : Run υ ε (Feature × List Notice)).warnings =
      [.languageMissing code] := by
  rw [translate, Translator.ofLexicon_eq_error h]
  rfl

theorem quiet_translate {ε : Type} {lexicon : Lexicon} {declared : Option String}
    (h : ∀ code, declared = some code → lexicon.contains code = true) (feature : Feature) :
    (translate lexicon declared feature : Run υ ε (Feature × List Notice)).Quiet := by
  cases declared with
  | none => rfl
  | some code =>
      obtain ⟨translator, htranslator⟩ := Translator.exists_ofLexicon_eq_ok (h code rfl)
      rw [translate, htranslator]
      rfl

theorem warnings_run_of_rejected {cause : π} (h : tools.parse text = .error cause)
    (selection : Selection) : (tools.run text selection).warnings = [] := by
  rw [run_eq_of_rejected h]
  rfl

/-- A run on a parsed text warns of what its translation warns of. -/
theorem warnings_run_of_parsed (h : tools.parse text = .ok parsed) (selection : Selection) :
    (tools.run text selection).warnings =
      (translate tools.lexicon (declaredLanguage? text) parsed :
        Run υ (Failure π γ φ) (Feature × List Notice)).warnings :=
  -- what comes after translation is meant for diagnosis only
  filter_events_run_of_parsed h selection fun hevent => by simp [hevent.level_eq]

end Toolchain

/-! ### Where notices come from -/

/-- The notices of a run are those that it had before it asked for any line. -/
theorem Generates.notices_eq {υ π γ φ : Type} {tools : Toolchain υ π γ φ} {shown : Feature}
    {whole : Bool} {notices : List Notice} {lines : List Nat} {calls : List (Entry υ)}
    {result : Except (Failure π γ φ) Generation} {generation : Generation}
    (h : Generates tools shown whole notices lines calls result)
    (hresult : result = .ok generation) : generation.notices = notices := by
  cases h with
  | nothing =>
      obtain rfl := Except.ok.inj hresult
      rfl
  | rendered =>
      obtain rfl := Except.ok.inj hresult
      rfl
  | unrendered => cases hresult
  | refused => cases hresult

/-- What was generated, without the notices about it. -/
def Generation.withoutNotices (generation : Generation) : Generation :=
  { generation with notices := [] }

namespace Toolchain

variable {υ π γ φ : Type}

/-- The notices with which a run goes on change nothing but the notices of its result. -/
theorem conclude_without_notices (tools : Toolchain υ π γ φ) (selection : Selection)
    (feature : Feature) (notices : List Notice) :
    (tools.conclude selection feature []).calls =
        (tools.conclude selection feature notices).calls ∧
      (tools.conclude selection feature []).result =
        (tools.conclude selection feature notices).result.map Generation.withoutNotices := by
  cases h : (collect tools.tagged feature selection
      (tools.heuristic.scope selection feature)).result with
  | error failure =>
      obtain ⟨hcalls, hresult⟩ := conclude_of_refused [] rfl h
      obtain ⟨hcalls', hresult'⟩ := conclude_of_refused notices rfl h
      rw [hcalls, hcalls', hresult, hresult']
      exact ⟨rfl, rfl⟩
  | ok collection =>
      obtain ⟨hcalls, hresult⟩ := conclude_of_collected [] rfl h
      obtain ⟨hcalls', hresult'⟩ := conclude_of_collected notices rfl h
      rw [hcalls, hcalls', hresult, hresult']
      refine ⟨rfl, ?_⟩
      cases (tools.output collection).result <;> rfl

end Toolchain

/-! ### Languages without words -/

theorem Translator.canonical_ofVocabulary_empty (language keyword : String) :
    (ofVocabulary language Vocabulary.empty).canonical keyword = keyword :=
  canonical_of_lookup_none rfl

namespace Lexicon

variable {lexicon : Lexicon} {code : String} {declared : Option String}

/-- A language without words changes no feature. -/
theorem translateDeclared_insert_empty (lexicon : Lexicon) (code : String) (feature : Feature) :
    (lexicon.insert code Vocabulary.empty).translateDeclared (some code) feature =
      (feature, []) := by
  have hkept : (Translator.ofVocabulary code Vocabulary.empty).translate feature = feature := by
    rw [Translator.translate_eq_mapKeywords, Feature.mapKeywords_eq_self_iff]
    exact fun step _ => Translator.canonical_ofVocabulary_empty code step.keyword
  rw [translateDeclared, translate, Translator.ofLexicon, get?_insert_self]
  exact congrArg (·, []) hkept

theorem translateDeclared_of_unknown (h : lexicon.contains code = false) (feature : Feature) :
    lexicon.translateDeclared (some code) feature = (feature, [.unknownLanguage code]) := by
  rw [translateDeclared, translate, Translator.ofLexicon_eq_error h]
  rfl

theorem notices_translateDeclared (h : ∀ code, declared = some code → lexicon.contains code = true)
    (feature : Feature) : (lexicon.translateDeclared declared feature).2 = [] := by
  cases declared with
  | none => rfl
  | some code =>
      obtain ⟨translator, htranslator⟩ := Translator.exists_ofLexicon_eq_ok (h code rfl)
      rw [translateDeclared, translate, htranslator]
      rfl

end Lexicon

/-! ### Runs -/

namespace Toolchain

variable {υ π γ φ : Type} {tools : Toolchain υ π γ φ} {text code : String}

/-- The toolchain that knows a further language, but no word of it. -/
def withBareLanguage (tools : Toolchain υ π γ φ) (code : String) : Toolchain υ π γ φ :=
  { tools with lexicon := tools.lexicon.insert code Vocabulary.empty }

/-- The notices of a result are those about the declared language. -/
theorem notices_of_result {selection : Selection} {generation : Generation}
    (h : (tools.run text selection).result = .ok generation) :
    ∃ parsed, tools.parse text = .ok parsed ∧ generation.notices =
      (tools.lexicon.translateDeclared (declaredLanguage? text) parsed).2 := by
  cases hparse : tools.parse text with
  | error cause =>
      rw [(run_of_rejected hparse selection).2] at h
      cases h
  | ok parsed => exact ⟨parsed, rfl, (generates_run hparse rfl selection rfl).notices_eq h⟩

/-- A run that declares an unknown language does what it would do if the language were known and had
no words. -/
theorem run_withBareLanguage (hdeclared : declaredLanguage? text = some code)
    (hunknown : tools.lexicon.contains code = false) (selection : Selection) :
    ((tools.withBareLanguage code).run text selection).calls =
        (tools.run text selection).calls ∧
      ((tools.withBareLanguage code).run text selection).result =
        (tools.run text selection).result.map Generation.withoutNotices := by
  cases hparse : tools.parse text with
  | error cause =>
      have hparse' : (tools.withBareLanguage code).parse text = .error cause := hparse
      obtain ⟨hcalls, hresult⟩ := run_of_rejected hparse selection
      obtain ⟨hcalls', hresult'⟩ := run_of_rejected hparse' selection
      rw [hcalls, hcalls', hresult, hresult']
      exact ⟨rfl, rfl⟩
  | ok parsed =>
      have hparse' : (tools.withBareLanguage code).parse text = .ok parsed := hparse
      have hkept := Lexicon.translateDeclared_of_unknown hunknown parsed
      have hkept' := tools.lexicon.translateDeclared_insert_empty code parsed
      rw [← hdeclared] at hkept hkept'
      -- both runs go on with the parsed feature, so they differ in their notices only
      obtain ⟨hcalls, hresult⟩ := run_of_parsed hparse hkept selection
      obtain ⟨hcalls', hresult'⟩ := run_of_parsed hparse' hkept' selection
      rw [hcalls, hcalls', hresult, hresult']
      exact tools.conclude_without_notices selection parsed [.unknownLanguage code]

/-- **An unknown language is a notice and nothing else.**  If the text declares a language that the
lexicon does not know, the run warns once, unless the text is rejected, its result has one notice,
and it is the run of a toolchain that knows the language and no word of it.  In every other case
there is no warning and no notice. -/
theorem unknown_language_is_notice (tools : Toolchain υ π γ φ) (text : String)
    (selection : Selection) :
    (∀ code, declaredLanguage? text = some code → tools.lexicon.contains code = false →
      (∀ generation, (tools.run text selection).result = .ok generation →
        generation.notices = [.unknownLanguage code]) ∧
      ((∀ cause, (tools.run text selection).result ≠ .error (.parse cause)) →
        (tools.run text selection).warnings = [.languageMissing code]) ∧
      ((tools.withBareLanguage code).run text selection).calls =
        (tools.run text selection).calls ∧
      ((tools.withBareLanguage code).run text selection).result =
        (tools.run text selection).result.map Generation.withoutNotices) ∧
    ((∀ code, declaredLanguage? text = some code → tools.lexicon.contains code = true) →
      (∀ generation, (tools.run text selection).result = .ok generation →
        generation.notices = []) ∧
      (tools.run text selection).warnings = []) := by
  constructor
  · intro code hdeclared hunknown
    refine ⟨fun generation h => ?_, fun h => ?_, run_withBareLanguage hdeclared hunknown selection⟩
    · obtain ⟨parsed, -, hnotices⟩ := notices_of_result h
      rw [hnotices, hdeclared, Lexicon.translateDeclared_of_unknown hunknown]
    · cases hparse : tools.parse text with
      | error cause => exact absurd (run_of_rejected hparse selection).2 (h cause)
      | ok parsed =>
          rw [warnings_run_of_parsed hparse, hdeclared, warnings_translate_of_unknown hunknown]
  · intro hknown
    refine ⟨fun generation h => ?_, ?_⟩
    · obtain ⟨parsed, -, hnotices⟩ := notices_of_result h
      rw [hnotices, Lexicon.notices_translateDeclared hknown]
    · cases hparse : tools.parse text with
      | error cause => exact warnings_run_of_rejected hparse selection
      | ok parsed =>
          rw [warnings_run_of_parsed hparse]
          exact quiet_translate hknown parsed

/-- A feature that claims to be French in a text that declares a language without a vocabulary, and
whose second line the generator refuses; and a text that declares nothing. -/
theorem unknown_language_is_notice_claimed :
    (((refusing ⟨"Till", some "fr", [⟨"a", 3, [⟨"soit", "x", 4⟩]⟩], []⟩ 9).run "# language: xx"
        ⟨3, 4, ""⟩).result = .ok ⟨some "2", [.unknownLanguage "xx"]⟩ ∧
      ((refusing ⟨"Till", some "fr", [⟨"a", 3, [⟨"soit", "x", 4⟩]⟩], []⟩ 9).run "# language: xx"
        ⟨3, 4, ""⟩).warnings = [.languageMissing "xx"] ∧
      (((refusing ⟨"Till", some "fr", [⟨"a", 3, [⟨"soit", "x", 4⟩]⟩], []⟩ 4).withBareLanguage
        "xx").run "# language: xx" ⟨3, 4, ""⟩).result = .error (.generate 4 "refused")) ∧
    ((refusing ⟨"Till", some "xx", [⟨"a", 3, []⟩], []⟩ 4).run "Feature: Till"
        ⟨3, 3, ""⟩).warnings = [] := by
  refine ⟨⟨by decide, ?_, ?_⟩, ?_⟩
  · refine ((unknown_language_is_notice (refusing _ 9) "# language: xx" ⟨3, 4, ""⟩).1 "xx"
      (by decide) (by decide)).2.1 fun cause => ?_
    have hok : ((refusing ⟨"Till", some "fr", [⟨"a", 3, [⟨"soit", "x", 4⟩]⟩], []⟩ 9).run
        "# language: xx" ⟨3, 4, ""⟩).result = .ok ⟨some "2", [.unknownLanguage "xx"]⟩ := by
      decide
    rw [hok]
    nofun
  · have hsame := ((unknown_language_is_notice (refusing ⟨"Till", some "fr",
      [⟨"a", 3, [⟨"soit", "x", 4⟩]⟩], []⟩ 4) "# language: xx" ⟨3, 4, ""⟩).1 "xx"
      (by decide) (by decide)).2.2.2
    rw [hsame]
    rfl
  · refine ((unknown_language_is_notice (refusing _ 4) "Feature: Till" ⟨3, 3, ""⟩).2 ?_).2
    have hnone : declaredLanguage? "Feature: Till" = none := by decide
    simp [hnone]

end Toolchain

end FeaturePlan
