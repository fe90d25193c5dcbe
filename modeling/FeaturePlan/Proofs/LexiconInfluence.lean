/-
What the lexicon decides.

Two runs on the same text may use different lexicons.  Their plans are still made of the same lines,
on which they find the same entries: **the lexicon decides the keywords of steps and nothing else**,
and of the lexicon only the entry of the declared language counts.  A keyword is that of the parsed
step or a canonical one.  All this holds whatever lines the entries of the feature share.

Main definitions:

* `PlanUnit.Alike`, units that differ in their keywords only;
* `PlanUnit.KeywordFrom`, where the keyword of a unit comes from;
* `AgreeUpToKeywords`, the runs whose plans differ in keywords only.

Main results:

* `generates_planner` — a run asks for the lines of the parsed feature and shows its units reworded;
* `lexicon_decides_keywords_only` — what two runs have in common.
-/

import FeaturePlan.Proofs.Planning
import FeaturePlan.Proofs.Rewording
import FeaturePlan.Proofs.Vacancy

set_option relaxedAutoImplicit false
set_option autoImplicit false

namespace FeaturePlan

/-! ### Units up to keywords -/

/-- Two units that differ in nothing but their keywords. -/
structure PlanUnit.Alike (a b : PlanUnit) : Prop where
  kind : a.kind = b.kind
  line : a.line = b.line
  text : a.text = b.text
  feature : a.feature = b.feature

/-- Where the keyword of a unit comes from, given the feature as it was parsed. -/
inductive PlanUnit.KeywordFrom (parsed : Feature) (unit : PlanUnit) : Prop
  /-- Only the units of steps have a keyword. -/
  | noStep (hkind : unit.kind ≠ .step) (hkeyword : unit.keyword = none)
  /-- The step that was parsed on the line may keep its keyword. -/
  | kept {owner : Scenario} {step : Step} (hkind : unit.kind = .step)
      (htarget : parsed.targetAt? unit.line = some (.step owner step))
      (htext : unit.text = step.text) (hkeyword : unit.keyword = some step.keyword)
  /-- Or it gets a canonical one. -/
  | canonical {owner : Scenario} {step : Step} (kind : StepKind) (hkind : unit.kind = .step)
      (htarget : parsed.targetAt? unit.line = some (.step owner step))
      (htext : unit.text = step.text) (hkeyword : unit.keyword = some kind.keyword)

theorem PlanUnit.alike_mapKeyword (f g : String → String) (unit : PlanUnit) :
    (unit.mapKeyword f).Alike (unit.mapKeyword g) :=
  ⟨rfl, rfl, rfl, rfl⟩

/-- A function that keeps keywords or makes them canonical makes units with such keywords. -/
theorem Feature.keywordFrom_mapKeyword {f : String → String}
    (hf : ∀ word, f word = word ∨ ∃ kind : StepKind, f word = kind.keyword) (parsed : Feature)
    (line : Nat) : PlanUnit.KeywordFrom parsed ((parsed.unitAt line).mapKeyword f) := by
  have hline : ((parsed.unitAt line).mapKeyword f).line = line := parsed.line_unitAt line
  rw [unitAt] at hline ⊢
  cases htarget : parsed.targetAt? line with
  | none => exact .noStep (by simp [PlanUnit.mapKeyword]) rfl
  | some target =>
      cases target with
      | scenario header => exact .noStep (by simp [PlanUnit.mapKeyword]) rfl
      | outline header => exact .noStep (by simp [PlanUnit.mapKeyword]) rfl
      | step owner entry =>
          rcases hf entry.keyword with hkept | ⟨kind, hkind⟩
          · exact .kept rfl htarget rfl (congrArg some hkept)
          · exact .canonical kind rfl htarget rfl (congrArg some hkind)

/-! ### One run -/

section

variable {π φ : Type} {parse : String → Except π Feature} {heuristic : Heuristic} {text : String}
  {parsed : Feature} {selection : Selection} {scope : Scope} (lexicon : Lexicon)
  (format : List PlanUnit → Bool → Except φ String)

/-- A run of a planner asks for the lines of the feature as it was parsed, and shows this feature
with its keywords reworded. -/
theorem generates_planner (hparse : parse text = .ok parsed)
    (hscope : heuristic.scope selection parsed = scope) :
    ∃ notices, Generates (planner lexicon parse format heuristic)
      ((parsed.shown selection scope).mapKeywords (lexicon.reword (declaredLanguage? text)))
      (scope = .feature) notices (parsed.askedLines selection scope)
      ((planner lexicon parse format heuristic).run text selection).calls
      ((planner lexicon parse format heuristic).run text selection).result := by
  obtain ⟨⟨feature, notices⟩, htranslate⟩ :
      ∃ pair, lexicon.translateDeclared (declaredLanguage? text) parsed = pair := ⟨_, rfl⟩
  have hfeature := lexicon.translateDeclared_eq_mapKeywords (declaredLanguage? text) parsed
  rw [htranslate] at hfeature
  subst hfeature
  have hparse' : (planner lexicon parse format heuristic).parse text = .ok parsed := hparse
  have hscope' := (Heuristic.scope_mapKeywords (lexicon.reword (declaredLanguage? text)) parsed
    selection heuristic).trans hscope
  have hrun := Toolchain.generates_run hparse' htranslate selection hscope'
  rw [Feature.shown_mapKeywords, Feature.askedLines_mapKeywords] at hrun
  exact ⟨notices, hrun⟩

/-- A planner that asks for no line has nothing rendered and no output. -/
theorem planner_of_nil (hparse : parse text = .ok parsed)
    (hscope : heuristic.scope selection parsed = scope)
    (hlines : parsed.askedLines selection scope = []) :
    ((planner lexicon parse format heuristic).run text selection).renderings = [] ∧
      ∃ notices, ((planner lexicon parse format heuristic).run text selection).result =
        .ok ⟨none, notices⟩ := by
  obtain ⟨notices, hrun⟩ := generates_planner lexicon format hparse hscope
  obtain ⟨hcalls, hresult⟩ := hrun.of_nil hlines
  refine ⟨?_, notices, hresult⟩
  rw [Run.renderings_eq_filterMap_calls, hcalls]
  rfl

/-- Any other has the units of the parsed feature rendered, with their keywords reworded. -/
theorem renderings_planner (hparse : parse text = .ok parsed)
    (hscope : heuristic.scope selection parsed = scope)
    (hlines : parsed.askedLines selection scope ≠ []) :
    ((planner lexicon parse format heuristic).run text selection).renderings =
      [((parsed.askedLines selection scope).map fun line =>
          (parsed.unitAt line).mapKeyword (lexicon.reword (declaredLanguage? text)),
        decide (scope = .feature))] := by
  obtain ⟨notices, hrun⟩ := generates_planner lexicon format hparse hscope
  have hcalls := hrun.calls_of_answered fun _ => rfl
  rw [if_neg hlines] at hcalls
  have hunits : (parsed.askedLines selection scope).map
      ((parsed.shown selection scope).mapKeywords
        (lexicon.reword (declaredLanguage? text))).unitAt =
      (parsed.askedLines selection scope).map fun line =>
        (parsed.unitAt line).mapKeyword (lexicon.reword (declaredLanguage? text)) := by
    refine List.map_congr_left fun line hline => ?_
    rw [Feature.unitAt_mapKeywords,
      Feature.unitAt_shown (Feature.mem_targetLines_of_mem_askedLines hline)]
  rw [Run.renderings_of_calls hcalls, hunits]

end

/-! ### Two runs -/

/-- Two runs that have plans rendered which differ in nothing but the keywords of steps, or no plans
at all. -/
inductive AgreeUpToKeywords {ε : Type} (parsed : Feature) (left right : Run PlanUnit ε Generation) :
    Prop
  /-- Neither run has output. -/
  | nothing {before after : List Notice} (hleft : left.renderings = [])
      (hright : right.renderings = []) (hbefore : left.result = .ok ⟨none, before⟩)
      (hafter : right.result = .ok ⟨none, after⟩)
  /-- Both have units rendered that are alike one by one. -/
  | rendered {whole : Bool} {units others : List PlanUnit}
      (hleft : left.renderings = [(units, whole)]) (hright : right.renderings = [(others, whole)])
      (halike : List.Forall₂ PlanUnit.Alike units others)
      (hunits : ∀ unit ∈ units, PlanUnit.KeywordFrom parsed unit)
      (hothers : ∀ unit ∈ others, PlanUnit.KeywordFrom parsed unit)

/-- **The lexicon decides the keywords of steps and nothing else.**  Two runs on a parsed text that
differ in their lexicons agree up to keywords; and if both lexicons have the same entry for the
language that the text declares, or it declares none, they render the same plan. -/
theorem lexicon_decides_keywords_only {π φ : Type} (a b : Lexicon)
    (parse : String → Except π Feature) (format : List PlanUnit → Bool → Except φ String)
    (heuristic : Heuristic) (text : String) (selection : Selection) (parsed : Feature)
    (hparse : parse text = .ok parsed) :
    AgreeUpToKeywords parsed ((planner a parse format heuristic).run text selection)
        ((planner b parse format heuristic).run text selection) ∧
      ((∀ code, declaredLanguage? text = some code → a.get? code = b.get? code) →
        ((planner a parse format heuristic).run text selection).renderings =
          ((planner b parse format heuristic).run text selection).renderings) := by
  by_cases hlines : parsed.askedLines selection (heuristic.scope selection parsed) = []
  · obtain ⟨hleft, before, hbefore⟩ := planner_of_nil a format hparse rfl hlines
    obtain ⟨hright, after, hafter⟩ := planner_of_nil b format hparse rfl hlines
    refine ⟨.nothing hleft hright hbefore hafter, fun _ => ?_⟩
    rw [hleft, hright]
  · have hleft := renderings_planner a format hparse rfl hlines
    have hright := renderings_planner b format hparse rfl hlines
    refine ⟨.rendered hleft hright ?_ ?_ ?_, fun hentry => ?_⟩
    · rw [List.forall₂_map_left_iff, List.forall₂_map_right_iff, List.forall₂_same]
      exact fun line _ => (parsed.unitAt line).alike_mapKeyword _ _
    · exact List.forall_mem_map.2 fun line _ =>
        parsed.keywordFrom_mapKeyword (a.reword_eq_or (declaredLanguage? text)) line
    · exact List.forall_mem_map.2 fun line _ =>
        parsed.keywordFrom_mapKeyword (b.reword_eq_or (declaredLanguage? text)) line
    · rw [hleft, hright, Lexicon.reword_congr hentry]

/-- A feature in which two steps share a line. -/
def sharedLine : Feature :=
  ⟨"Till", none, [⟨"a", 3, [⟨"soit", "x", 4⟩, ⟨"*", "y", 4⟩]⟩], []⟩

/-- A planner that reads this feature in every text. -/
def sharedLinePlanner (lexicon : Lexicon) : Toolchain PlanUnit Empty Empty Empty :=
  planner lexicon (fun _ => .ok sharedLine) (fun _ _ => .ok "") .text

/-- A lexicon that has the declared language against one that has none; and both on a text that
declares no language. -/
theorem lexicon_decides_keyword_on_shared_line :
    AgreeUpToKeywords sharedLine
        ((sharedLinePlanner (Lexicon.empty.insert "fr" ⟨["Soit "], [], [], [], []⟩)).run
          "# language: fr" ⟨4, 5, ""⟩)
        ((sharedLinePlanner .empty).run "# language: fr" ⟨4, 5, ""⟩) ∧
      ((sharedLinePlanner (Lexicon.empty.insert "fr" ⟨["Soit "], [], [], [], []⟩)).run
          "# language: fr" ⟨4, 5, ""⟩).renderings =
        [([⟨.step, 4, some "given", "x", "Till"⟩, ⟨.empty, 5, none, "", "Till"⟩], false)] ∧
      ((sharedLinePlanner .empty).run "# language: fr" ⟨4, 5, ""⟩).renderings =
        [([⟨.step, 4, some "soit", "x", "Till"⟩, ⟨.empty, 5, none, "", "Till"⟩], false)] ∧
      ((sharedLinePlanner (Lexicon.empty.insert "fr" ⟨["Soit "], [], [], [], []⟩)).run
          "Feature: Till" ⟨4, 5, ""⟩).renderings =
        ((sharedLinePlanner .empty).run "Feature: Till" ⟨4, 5, ""⟩).renderings := by
  refine ⟨?_, by decide, by decide, ?_⟩
  · exact (lexicon_decides_keywords_only _ _ _ _ .text "# language: fr" ⟨4, 5, ""⟩ sharedLine
      rfl).1
  · refine (lexicon_decides_keywords_only _ _ _ _ .text "Feature: Till" ⟨4, 5, ""⟩ sharedLine
      rfl).2 ?_
    have hnone : declaredLanguage? "Feature: Till" = none := by decide
    simp [hnone]

end FeaturePlan
