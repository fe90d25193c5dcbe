/-
The header lines of a feature.

A **header line** is one that a scenario or an outline claims.  Which of them a selection holds
decides what the selection means and what it asks for.  Cutting a feature down to a selection keeps
the header lines in the selection and no others, and translation keeps them all, so both may be
looked up in the feature as it was parsed.

Main definitions: `Feature.HasHeaderIn`, whether a selection holds a header line, and
`Lexicon.reword`, what becomes of a keyword in a file.

Main results:

* `Feature.mem_headerLines`, `Feature.headerLines_restrict` — the header lines of a feature, and of
  the same feature cut down;
* `Feature.hasHeaderIn_congr`, `Feature.allScenarios_eq_nil_congr` — what the lines of the headers
  decide;
* `Lexicon.reword_eq_or`, `Lexicon.reword_congr` — what may become of a keyword, and by what;
* `Lexicon.translateDeclared_eq_mapKeywords`, `Lexicon.map_line_translateDeclared` — translation
  rewords keywords and keeps the lines of all headers.
-/

import FeaturePlan.Proofs.Generation
import FeaturePlan.Proofs.Translation

set_option relaxedAutoImplicit false
set_option autoImplicit false

namespace FeaturePlan

variable {feature a b : Feature} {selection : Selection} {line : Nat}

/-! ### Claiming a line -/

/-- The selection holds the header of a scenario or an outline. -/
def Feature.HasHeaderIn (feature : Feature) (selection : Selection) : Prop :=
  ∃ scenario ∈ feature.allScenarios,
    selection.first ≤ scenario.line ∧ scenario.line ≤ selection.last

namespace Feature

theorem mem_headerLines :
    line ∈ feature.headerLines ↔ ∃ scenario ∈ feature.allScenarios, scenario.line = line := by
  rw [headerLines, mem_sortOn, List.mem_map]

theorem hasHeaderIn_iff :
    feature.HasHeaderIn selection ↔
      ∃ line ∈ feature.headerLines, selection.contains line = true := by
  constructor
  · rintro ⟨scenario, hscenario, hline⟩
    exact ⟨scenario.line, mem_headerLines.2 ⟨scenario, hscenario, rfl⟩,
      Selection.contains_iff.2 hline⟩
  · rintro ⟨line, hline, hcontains⟩
    obtain ⟨scenario, hscenario, rfl⟩ := mem_headerLines.1 hline
    exact ⟨scenario, hscenario, Selection.contains_iff.1 hcontains⟩

theorem allScenarios_eq_nil_iff :
    feature.allScenarios = [] ↔ feature.scenarios = [] ∧ feature.outlines = [] :=
  List.append_eq_nil_iff

theorem headerLines_eq_nil_iff : feature.headerLines = [] ↔ feature.allScenarios = [] := by
  rw [← List.length_eq_zero_iff, headerLines, length_sortOn, List.length_map,
    List.length_eq_zero_iff]

theorem hasScenarios_iff_ne_nil : feature.hasScenarios = true ↔ feature.allScenarios ≠ [] := by
  rw [hasScenarios_iff, ne_eq, ne_eq, ne_eq, allScenarios_eq_nil_iff, not_and_or]

/-- A feature with scenarios has header lines. -/
theorem headerLines_ne_nil (h : feature.hasScenarios = true) : feature.headerLines ≠ [] :=
  mt headerLines_eq_nil_iff.1 (hasScenarios_iff_ne_nil.1 h)

/-- Cutting a feature down keeps the header lines in the selection, with their repetitions. -/
theorem headerLines_restrict (feature : Feature) (selection : Selection) :
    (feature.restrict selection).headerLines = feature.headerLines.filter selection.contains := by
  rw [headerLines, headerLines, filter_sortOn, List.filter_map, allScenarios_restrict]
  rfl

end Feature

/-! ### Features with the same header lines -/

/-- Whether there are scenarios at all shows in the lines of the headers. -/
theorem Feature.allScenarios_eq_nil_congr
    (h : a.allScenarios.map (·.line) = b.allScenarios.map (·.line)) :
    a.allScenarios = [] ↔ b.allScenarios = [] := by
  rw [← List.map_eq_nil_iff (f := fun scenario : Scenario => scenario.line), h,
    List.map_eq_nil_iff]

/-- Whether a selection holds a header depends on the lines of the headers only. -/
theorem Feature.hasHeaderIn_congr
    (h : a.allScenarios.map (·.line) = b.allScenarios.map (·.line)) :
    a.HasHeaderIn selection ↔ b.HasHeaderIn selection := by
  rw [hasHeaderIn_iff, hasHeaderIn_iff, headerLines, headerLines, h]

/-- Features that differ in nothing but keywords have the same header lines. -/
theorem Feature.Alike.map_line_eq (h : a.Alike b) :
    a.allScenarios.map (·.line) = b.allScenarios.map (·.line) := by
  have hall : List.Forall₂ Scenario.Alike a.allScenarios b.allScenarios :=
    List.rel_append h.scenarios h.outlines
  have hlines :
      List.Forall₂ (fun s t : Scenario => s.line = t.line) a.allScenarios b.allScenarios :=
    hall.imp fun _ _ halike => halike.line
  rw [← List.forall₂_eq_eq_eq, List.forall₂_map_left_iff, List.forall₂_map_right_iff]
  exact hlines

/-! ### Translation -/

/-- Rewriting keywords keeps the lines of all headers. -/
theorem Feature.map_line_mapKeywords (f : String → String) (feature : Feature) :
    (feature.mapKeywords f).allScenarios.map (·.line) = feature.allScenarios.map (·.line) :=
  (feature.alike_mapKeywords f).map_line_eq.symm

/-- What becomes of a keyword in a file that declares a language or none: the canonical spelling if
the language is known and the keyword recognised. -/
def Lexicon.reword (lexicon : Lexicon) (declared : Option String) : String → String :=
  match declared with
  | none => id
  | some code =>
    match Translator.ofLexicon lexicon code with
    | .ok translator => translator.canonical
    | .error _ => id

/-- A keyword is kept or becomes a canonical spelling. -/
theorem Lexicon.reword_eq_or (lexicon : Lexicon) (declared : Option String) (keyword : String) :
    lexicon.reword declared keyword = keyword ∨
      ∃ kind : StepKind, lexicon.reword declared keyword = kind.keyword := by
  cases declared with
  | none => exact Or.inl rfl
  | some code =>
      rw [reword]
      cases Translator.ofLexicon lexicon code with
      | ok translator => exact translator.canonical_eq_or keyword
      | error unknown => exact Or.inl rfl

/-- Of a lexicon, the entry of the declared language counts and nothing else. -/
theorem Lexicon.reword_congr {a b : Lexicon} {declared : Option String}
    (h : ∀ code, declared = some code → a.get? code = b.get? code) :
    a.reword declared = b.reword declared := by
  cases declared with
  | none => rfl
  | some code =>
      have hentry : Translator.ofLexicon a code = Translator.ofLexicon b code := by
        rw [Translator.ofLexicon, Translator.ofLexicon, h code rfl]
      rw [reword, reword, hentry]

/-- Translation from the declared language rewords the keywords. -/
theorem Lexicon.translateDeclared_eq_mapKeywords (lexicon : Lexicon) (declared : Option String)
    (feature : Feature) :
    (lexicon.translateDeclared declared feature).1 =
      feature.mapKeywords (lexicon.reword declared) := by
  cases declared with
  | none => exact feature.mapKeywords_id.symm
  | some code =>
      rw [translateDeclared, translate, reword]
      cases Translator.ofLexicon lexicon code with
      | ok translator => exact translator.translate_eq_mapKeywords feature
      | error unknown => exact feature.mapKeywords_id.symm

/-- Translation keeps the lines of all headers. -/
theorem Lexicon.map_line_translateDeclared (lexicon : Lexicon) (declared : Option String)
    (feature : Feature) :
    (lexicon.translateDeclared declared feature).1.allScenarios.map (·.line) =
      feature.allScenarios.map (·.line) := by
  rw [translateDeclared_eq_mapKeywords, Feature.map_line_mapKeywords]

end FeaturePlan
