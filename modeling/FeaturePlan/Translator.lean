/-
Translation of step keywords to their canonical spelling.

A **translator** knows one language.  It recognises a keyword whatever the case of its letters and
whatever blanks follow it, and writes the canonical keyword of its kind in its place.  A keyword
that it does not know is left as it is, and nothing but keywords is ever touched.

A spelling may be listed under several kinds; the **last** of them in the order of `StepKind.all`
is the one that counts.

Main definitions:

* `normalSpelling`, the form in which spellings are compared;
* `Translator`, `Translator.ofLexicon`, `Translator.lookup`;
* `Translator.translate` and the events that go with it, `Translator.events`;
* `Lexicon.translate`, translation from a language given by its code.
-/

import FeaturePlan.Event
import FeaturePlan.Language.Lexicon

set_option relaxedAutoImplicit false
set_option autoImplicit false

namespace FeaturePlan

/-- The form in which spellings are compared: without blanks at the end, in small letters. -/
def normalSpelling (word : String) : String := String.ofList (Text.lower (Text.trimEnd word.toList))

/-- The step keywords of one language, ready to be recognised. -/
structure Translator where
  /-- The code under which the language was looked up. -/
  language : String
  /-- The normal spellings in the order in which they were listed, each with its kind. -/
  entries : List (String × StepKind)
deriving Repr, DecidableEq

/-- A language code that stands for nothing. -/
structure UnknownLanguage where
  code : String
deriving Repr, DecidableEq

/-- The complaint about a language code that stands for nothing. -/
def UnknownLanguage.message (e : UnknownLanguage) : String :=
  "cannot find language '" ++ e.code ++ "' in the keyword table"

namespace Translator

/-! ### Recognising keywords -/

/-- The translator for a vocabulary. -/
def ofVocabulary (language : String) (vocabulary : Vocabulary) : Translator :=
  ⟨language, vocabulary.literals.map fun entry => (normalSpelling entry.2, entry.1)⟩

/-- The translator for a language of the lexicon. -/
def ofLexicon (lexicon : Lexicon) (code : String) : Except UnknownLanguage Translator :=
  match lexicon.get? code with
  | some vocabulary => .ok (ofVocabulary code vocabulary)
  | none => .error ⟨code⟩

/-- The kind under which a spelling is listed last among some entries. -/
def lastKind? (spelling : String) : List (String × StepKind) → Option StepKind
  | [] => none
  | entry :: rest =>
    (lastKind? spelling rest).or (if entry.1 = spelling then some entry.2 else none)

/-- The kind of step that a keyword introduces. -/
def lookup (translator : Translator) (keyword : String) : Option StepKind :=
  lastKind? (normalSpelling keyword) translator.entries

/-- The kind of a step whose keyword is recognised but not spelled canonically. -/
def correction? (translator : Translator) (step : Step) : Option StepKind :=
  (translator.lookup step.keyword).filter fun kind => step.keyword != kind.keyword

/-! ### Translating features -/

/-- The step with the canonical keyword if its own needs correction. -/
def translateStep (translator : Translator) (step : Step) : Step :=
  match translator.correction? step with
  | some kind => step.withKeyword kind.keyword
  | none => step

/-- The scenario with its steps translated.  One in which no step needs correction is kept whole. -/
def translateScenario (translator : Translator) (scenario : Scenario) : Scenario :=
  if scenario.steps.any fun step => (translator.correction? step).isSome then
    { scenario with steps := scenario.steps.map translator.translateStep }
  else
    scenario

/-- The feature with the steps of all scenarios and outlines translated. -/
def translate (translator : Translator) (feature : Feature) : Feature :=
  { feature with
    scenarios := feature.scenarios.map translator.translateScenario
    outlines := feature.outlines.map translator.translateScenario }

/-! ### Reporting -/

/-- The number of steps whose keywords differ between a feature and its translation. -/
def countChanged (before after : Feature) : Nat :=
  (before.steps.zip after.steps).countP fun pair => pair.1.keyword != pair.2.keyword

/-- What there is to report about the translation of a feature. -/
def events (translator : Translator) (feature : Feature) : List Event :=
  let translated := translator.translate feature
  [.translating translator.language feature.title,
   .translated translator.language translated.steps.length (countChanged feature translated)]

end Translator

/-- The feature translated from the language with the given code. -/
def Lexicon.translate (lexicon : Lexicon) (code : String) (feature : Feature) :
    Except UnknownLanguage Feature :=
  (Translator.ofLexicon lexicon code).map fun translator => translator.translate feature

end FeaturePlan
