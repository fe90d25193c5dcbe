/-
What a translation reports about itself.

A translation reports how many steps the feature has and how many keywords it has changed.  The
second number is found by going through the steps before and after **side by side**.  Translation
keeps every step in its place, so each step is compared with what became of itself, and the number
is that of the steps that **need correction**: those whose keyword is recognised and is not the
canonical spelling of its kind.  A translation that reports no change has made none.

Main definition: `Translator.NeedsCorrection`.

Main results:

* `Translator.countChanged_mapKeywords` — the steps that a walk changes, counted side by side;
* `Translator.needsCorrection_iff`, `Translator.translate_eq_self_iff` — which keywords change, and
  when none does;
* `Toolchain.accounts_run_of_known` — a run that translates reports it once;
* `Translator.translation_counts_exact` — the reported numbers.
-/

import FeaturePlan.Proofs.RunEvents
import FeaturePlan.Proofs.Translation

set_option relaxedAutoImplicit false
set_option autoImplicit false

namespace FeaturePlan

namespace Translator

variable {translator : Translator} {step : Step} {feature : Feature}

/-! ### Steps that need correction -/

/-- The keyword of the step is recognised, and it is not the canonical spelling of its kind. -/
def NeedsCorrection (translator : Translator) (step : Step) : Prop :=
  ∃ kind, translator.lookup step.keyword = some kind ∧ kind.keyword ≠ step.keyword

/-- The steps that need correction are those whose keywords change. -/
theorem needsCorrection_iff :
    translator.NeedsCorrection step ↔ translator.canonical step.keyword ≠ step.keyword := by
  constructor
  · rintro ⟨kind, hkind, hspelling⟩
    rwa [canonical_of_lookup hkind]
  · intro hchanged
    cases h : translator.lookup step.keyword with
    | none => exact absurd (canonical_of_lookup_none h) hchanged
    | some kind =>
        rw [canonical_of_lookup h] at hchanged
        exact ⟨kind, h, hchanged⟩

instance (translator : Translator) : DecidablePred translator.NeedsCorrection := fun _ =>
  decidable_of_iff _ needsCorrection_iff.symm

/-- A feature stays as it is iff none of its steps needs correction. -/
theorem translate_eq_self_iff :
    translator.translate feature = feature ↔
      ∀ step ∈ feature.steps, ¬translator.NeedsCorrection step := by
  rw [translate_eq_mapKeywords, Feature.mapKeywords_eq_self_iff]
  simp only [needsCorrection_iff, not_not]

/-! ### Counting side by side -/

theorem length_steps_translate (translator : Translator) (feature : Feature) :
    (translator.translate feature).steps.length = feature.steps.length := by
  rw [translate_eq_mapKeywords, Feature.steps_mapKeywords, List.length_map]

/-- The plain walk keeps the steps in their places, so each is compared with its own image. -/
theorem countChanged_mapKeywords (f : String → String) (feature : Feature) :
    countChanged feature (feature.mapKeywords f) =
      feature.steps.countP fun step => step.keyword != f step.keyword := by
  have hpairs : feature.steps.zip (feature.mapKeywords f).steps =
      feature.steps.map fun step => (step, step.withKeyword (f step.keyword)) := by
    rw [Feature.steps_mapKeywords, ← List.map_prod_left_eq_zip]
  rw [countChanged, hpairs, List.countP_map]
  rfl

/-- The steps that are found to have changed are those that need correction. -/
theorem countChanged_translate (translator : Translator) (feature : Feature) :
    countChanged feature (translator.translate feature) =
      feature.steps.countP fun step => translator.NeedsCorrection step := by
  rw [translate_eq_mapKeywords, countChanged_mapKeywords]
  refine List.countP_congr fun step _ => ?_
  rw [bne_iff_ne, decide_eq_true_iff, needsCorrection_iff, ne_comm]

end Translator

/-! ### Runs that translate -/

/-- Whether an event gives account of a translation. -/
def Event.isAccount : Event → Bool
  | .translated _ _ _ => true
  | _ => false

theorem Concluding.isAccount_eq {heuristic : Heuristic} {selection : Selection} {feature : Feature}
    {event : Event} (h : Concluding heuristic selection feature event) :
    event.isAccount = false := by
  cases h <;> rfl

/-- A run that translates gives account of it once. -/
theorem Toolchain.accounts_run_of_known {υ π γ φ : Type} {tools : Toolchain υ π γ φ}
    {text code : String} {parsed : Feature} {translator : Translator}
    (hparse : tools.parse text = .ok parsed) (hdeclared : declaredLanguage? text = some code)
    (htranslator : Translator.ofLexicon tools.lexicon code = .ok translator)
    (selection : Selection) :
    (tools.run text selection).events.filter Event.isAccount =
      (translator.events parsed).filter Event.isAccount := by
  have hevents : (translate tools.lexicon (some code) parsed :
      Run υ (Failure π γ φ) (Feature × List Notice)).events = translator.events parsed := by
    rw [translate, htranslator]
    rfl
  rw [filter_events_run_of_parsed hparse selection Concluding.isAccount_eq, hdeclared, hevents]

/-- **The account of a translation is exact.**  It gives the number of steps of the feature and the
number of those that need correction, which is zero iff the feature stays as it is; and a run that
translates the feature gives this account and no other. -/
theorem Translator.translation_counts_exact (translator : Translator) (feature : Feature) :
    ∃ changed,
      translator.events feature =
        [.translating translator.language feature.title,
          .translated translator.language feature.steps.length changed] ∧
      changed = (feature.steps.countP fun step => translator.NeedsCorrection step) ∧
      changed ≤ feature.steps.length ∧
      (changed = 0 ↔ translator.translate feature = feature) ∧
      ∀ (υ π γ φ : Type) (tools : Toolchain υ π γ φ) (text code : String) (selection : Selection),
        tools.parse text = .ok feature → declaredLanguage? text = some code →
        Translator.ofLexicon tools.lexicon code = .ok translator →
        (tools.run text selection).events.filter Event.isAccount =
          [.translated translator.language feature.steps.length changed] := by
  have hevents : translator.events feature =
      [.translating translator.language feature.title,
        .translated translator.language feature.steps.length
          (feature.steps.countP fun step => translator.NeedsCorrection step)] := by
    rw [events, length_steps_translate, countChanged_translate]
  refine ⟨_, hevents, rfl, List.countP_le_length, ?_, ?_⟩
  · rw [List.countP_eq_zero, translate_eq_self_iff]
    simp only [decide_eq_true_iff]
  · intro υ π γ φ tools text code selection hparse hdeclared htranslator
    rw [Toolchain.accounts_run_of_known hparse hdeclared htranslator, hevents]
    rfl

/-- A feature with a bullet, a keyword that is not known, two that are known by other spellings, and
a canonical spelling that the language lists under another kind. -/
theorem Translator.translation_counts_exact_french :
    ∃ vocabulary feature, vocabulary = ⟨["* ", "Soit "], [], [], ["Et ", "Given "], []⟩ ∧
      feature = ⟨"Addition", none,
        [⟨"Ajouter", 3, [⟨"SOIT", "un", 4⟩, ⟨"*", "deux", 5⟩, ⟨"alors", "trois", 6⟩]⟩,
          ⟨"Rien", 7, []⟩], [⟨"Plan", 8, [⟨"given", "<a>", 9⟩, ⟨"Et", "<b>", 10⟩]⟩]⟩ ∧
      (ofVocabulary "fr" vocabulary).events feature =
        [.translating "fr" "Addition", .translated "fr" 5 3] ∧
      ((({ Toolchain.refusing feature 8 with
          lexicon := Lexicon.empty.insert "fr" vocabulary } : Toolchain _ _ _ _).run
            "# language: fr" ⟨7, 9, ""⟩).events.filter Event.isAccount).map Event.fields =
        [[("language", "fr"), ("steps", "5"), ("rewritten", "3")]] := by
  refine ⟨_, _, rfl, rfl, ?_⟩
  obtain ⟨changed, hevents, hcount, -, -, hrun⟩ := translation_counts_exact
    (ofVocabulary "fr" ⟨["* ", "Soit "], [], [], ["Et ", "Given "], []⟩)
    ⟨"Addition", none,
      [⟨"Ajouter", 3, [⟨"SOIT", "un", 4⟩, ⟨"*", "deux", 5⟩, ⟨"alors", "trois", 6⟩]⟩,
        ⟨"Rien", 7, []⟩], [⟨"Plan", 8, [⟨"given", "<a>", 9⟩, ⟨"Et", "<b>", 10⟩]⟩]⟩
  have hthree : changed = 3 := hcount.trans (by decide)
  subst hthree
  refine ⟨hevents, ?_⟩
  rw [hrun _ _ _ _ _ "# language: fr" "fr" ⟨7, 9, ""⟩ rfl (by decide)
    (by rw [ofLexicon, Lexicon.get?_insert_self])]
  rfl

end FeaturePlan
