/-
What a run asks of its helpers, and how it ends.

A run of a toolchain calls the generator on the lines that `AskedFor` describes, **in order and as
far as the first refusal**, and the renderer once, with all units, if no line was refused.  Nothing
else ever reaches a helper: a text that is rejected and a selection without lines call none.

Main definitions:

* `Lexicon.translateDeclared`, what translation makes of a parsed feature;
* `Generates`, the ways in which a run may go once its lines are known.

Main results:

* `Toolchain.run_eq_of_rejected`, `Toolchain.run_eq_of_parsed` — what parsing decides;
* `Toolchain.generates_conclude` — what comes after translation goes as `Generates` says;
* `Toolchain.run_generates` — the calls and the result of every run.
-/

import FeaturePlan.Generation
import FeaturePlan.Proofs.Collection

set_option relaxedAutoImplicit false
set_option autoImplicit false

namespace FeaturePlan

/-! ### Translation of the declared language -/

/-- The feature translated from the declared language, if one is declared and known, and the notices
about it. -/
def Lexicon.translateDeclared (lexicon : Lexicon) (declared : Option String) (feature : Feature) :
    Feature × List Notice :=
  match declared with
  | none => (feature, [])
  | some code =>
    match lexicon.translate code feature with
    | .ok translated => (translated, [])
    | .error unknown => (feature, [.unknownLanguage unknown.code])

/-! ### The ways in which a run may go -/

/-- The calls and the result of a run that asks for some lines of the feature `shown`. -/
inductive Generates {υ π γ φ : Type} (tools : Toolchain υ π γ φ) (shown : Feature) (whole : Bool)
    (notices : List Notice) :
    List Nat → List (Entry υ) → Except (Failure π γ φ) Generation → Prop
  /-- Without lines no helper is called and there is no output. -/
  | nothing : Generates tools shown whole notices [] [] (.ok ⟨none, notices⟩)
  /-- If all lines have units, these are rendered once, in the order of their lines. -/
  | rendered {lines : List Nat} {units : List υ} {text : String} (hlines : lines ≠ [])
      (hunits : List.Forall₂ (fun line unit => tools.generate shown line = .ok unit) lines units)
      (htext : tools.format units whole = .ok text) :
      Generates tools shown whole notices lines
        (lines.map (Entry.asked shown) ++ [Entry.rendered units whole]) (.ok ⟨some text, notices⟩)
  /-- Rendering may fail, and then so does the run. -/
  | unrendered {lines : List Nat} {units : List υ} {cause : φ} (hlines : lines ≠ [])
      (hunits : List.Forall₂ (fun line unit => tools.generate shown line = .ok unit) lines units)
      (hcause : tools.format units whole = .error cause) :
      Generates tools shown whole notices lines
        (lines.map (Entry.asked shown) ++ [Entry.rendered units whole]) (.error (.format cause))
  /-- The first line that is refused is the last call, and the failure names it. -/
  | refused {before after : List Nat} {line : Nat} {cause : γ}
      (hbefore : ∀ earlier ∈ before, ∃ unit, tools.generate shown earlier = .ok unit)
      (hline : tools.generate shown line = .error cause) :
      Generates tools shown whole notices (before ++ line :: after)
        ((before ++ [line]).map (Entry.asked shown)) (.error (.generate line cause))

namespace Toolchain

variable {υ π γ φ : Type}

/-! ### Translation calls no helper -/

theorem result_translate {ε : Type} (lexicon : Lexicon) (declared : Option String)
    (feature : Feature) :
    (translate lexicon declared feature : Run υ ε (Feature × List Notice)).result =
      .ok (lexicon.translateDeclared declared feature) := by
  cases declared with
  | none => rfl
  | some code =>
      rw [translate, Lexicon.translateDeclared, Lexicon.translate]
      cases Translator.ofLexicon lexicon code <;> rfl

theorem calls_translate {ε : Type} (lexicon : Lexicon) (declared : Option String)
    (feature : Feature) :
    (translate lexicon declared feature : Run υ ε (Feature × List Notice)).calls = [] := by
  cases declared with
  | none => rfl
  | some code =>
      rw [translate]
      cases Translator.ofLexicon lexicon code with
      | ok translator =>
          rw [Run.calls_bind_of_ok rfl, Run.calls_noteAll]
          rfl
      | error unknown => rfl

/-! ### What comes after translation -/

/-- The refusals of the generator as failures of the run, tagged with their lines. -/
def tagged (tools : Toolchain υ π γ φ) (feature : Feature) (line : Nat) :
    Except (Failure π γ φ) υ :=
  (tools.generate feature line).mapError (.generate line)

theorem tagged_eq_ok_iff {tools : Toolchain υ π γ φ} {feature : Feature} {line : Nat} {unit : υ} :
    tools.tagged feature line = .ok unit ↔ tools.generate feature line = .ok unit := by
  rw [tagged]
  cases tools.generate feature line <;> simp [Except.mapError]

theorem tagged_of_error {tools : Toolchain υ π γ φ} {feature : Feature} {line : Nat} {cause : γ}
    (h : tools.generate feature line = .error cause) :
    tools.tagged feature line = .error (.generate line cause) := by
  rw [tagged, h]
  rfl

/-- The part of a run that comes after translation. -/
def conclude (tools : Toolchain υ π γ φ) (selection : Selection) (feature : Feature)
    (notices : List Notice) : Run υ (Failure π γ φ) Generation := do
  let scope := tools.heuristic.scope selection feature
  Run.note (.classified selection.first selection.last scope tools.heuristic)
  let collection ← collect tools.tagged feature selection scope
  let output ← tools.output collection
  return ⟨output, notices⟩

/-- A text that is rejected ends the run before anything happens. -/
theorem run_eq_of_rejected {tools : Toolchain υ π γ φ} {text : String} {cause : π}
    (h : tools.parse text = .error cause) (selection : Selection) :
    tools.run text selection = ⟨[], .error (.parse cause)⟩ := by
  rw [run, h]
  rfl

/-- If the text is parsed, the run translates the feature and goes on with the translation. -/
theorem run_eq_of_parsed {tools : Toolchain υ π γ φ} {text : String} {parsed feature : Feature}
    {notices : List Notice} (hparse : tools.parse text = .ok parsed)
    (htranslate : tools.lexicon.translateDeclared (declaredLanguage? text) parsed =
      (feature, notices)) (selection : Selection) :
    tools.run text selection =
      ⟨(translate tools.lexicon (declaredLanguage? text) parsed :
          Run υ (Failure π γ φ) (Feature × List Notice)).journal ++
          (tools.conclude selection feature notices).journal,
        (tools.conclude selection feature notices).result⟩ := by
  have hfirst : (Run.ofExcept ((tools.parse text).mapError .parse) :
      Run υ (Failure π γ φ) Feature).result = .ok parsed := by
    rw [Run.ofExcept, hparse]
    rfl
  have hsecond : (translate tools.lexicon (declaredLanguage? text) parsed :
      Run υ (Failure π γ φ) (Feature × List Notice)).result = .ok (feature, notices) := by
    rw [result_translate, htranslate]
  rw [run, Run.bind_of_ok hfirst, Run.bind_of_ok hsecond]
  rfl

/-- A run that rejects its text calls no helper. -/
theorem run_of_rejected {tools : Toolchain υ π γ φ} {text : String} {cause : π}
    (h : tools.parse text = .error cause) (selection : Selection) :
    (tools.run text selection).calls = [] ∧
      (tools.run text selection).result = .error (.parse cause) := by
  rw [run_eq_of_rejected h]
  exact ⟨rfl, rfl⟩

/-- If the text is parsed, all calls are those of what comes after translation. -/
theorem run_of_parsed {tools : Toolchain υ π γ φ} {text : String} {parsed feature : Feature}
    {notices : List Notice} (hparse : tools.parse text = .ok parsed)
    (htranslate : tools.lexicon.translateDeclared (declaredLanguage? text) parsed =
      (feature, notices)) (selection : Selection) :
    (tools.run text selection).calls = (tools.conclude selection feature notices).calls ∧
      (tools.run text selection).result = (tools.conclude selection feature notices).result := by
  have hcalls : (translate tools.lexicon (declaredLanguage? text) parsed :
      Run υ (Failure π γ φ) (Feature × List Notice)).journal.filter Entry.isCall = [] :=
    calls_translate tools.lexicon (declaredLanguage? text) parsed
  rw [run_eq_of_parsed hparse htranslate, Run.calls, List.filter_append, hcalls, List.nil_append]
  exact ⟨rfl, rfl⟩

/-! ### Collecting and rendering -/

section

variable {tools : Toolchain υ π γ φ} {selection : Selection} {feature : Feature} {scope : Scope}
  {notices : List Notice}

/-- What was collected is rendered. -/
theorem conclude_of_collected (notices : List Notice) {collection : Option (Collection υ)}
    (hscope : tools.heuristic.scope selection feature = scope)
    (hcollection : (collect tools.tagged feature selection scope).result = .ok collection) :
    (tools.conclude selection feature notices).calls =
        (collect tools.tagged feature selection scope).calls ++ (tools.output collection).calls ∧
      (tools.conclude selection feature notices).result =
        (tools.output collection).result.map fun output => ⟨output, notices⟩ := by
  subst hscope
  constructor
  · rw [conclude, Run.calls_bind_of_ok rfl, Run.calls_bind_of_ok hcollection, Run.calls_note,
      Run.calls_bind_pure, List.nil_append]
  · rw [conclude, Run.result_bind_of_ok rfl, Run.result_bind_of_ok hcollection,
      Run.result_bind_pure]

/-- If collecting fails, nothing is rendered. -/
theorem conclude_of_refused (notices : List Notice) {failure : Failure π γ φ}
    (hscope : tools.heuristic.scope selection feature = scope)
    (hfailure : (collect tools.tagged feature selection scope).result = .error failure) :
    (tools.conclude selection feature notices).calls =
        (collect tools.tagged feature selection scope).calls ∧
      (tools.conclude selection feature notices).result = .error failure := by
  subst hscope
  constructor
  · rw [conclude, Run.calls_bind_of_ok rfl, Run.calls_bind_of_error hfailure, Run.calls_note,
      List.nil_append]
  · rw [conclude, Run.result_bind_of_ok rfl, Run.result_bind_of_error hfailure]

/-- Units that there are go to the renderer once. -/
theorem output_of_ne_nil (tools : Toolchain υ π γ φ) {units : List υ} (h : units ≠ [])
    (whole : Bool) :
    (tools.output (some ⟨units, whole⟩)).calls = [Entry.rendered units whole] ∧
      (tools.output (some ⟨units, whole⟩)).result =
        ((tools.format units whole).mapError .format).map some := by
  cases units with
  | nil => exact absurd rfl h
  | cons unit units =>
      constructor
      · exact Run.calls_bind_pure _ _
      · exact Run.result_bind_pure _ _

/-- If every line has a unit, a run goes as `Generates` says. -/
theorem generates_of_answered {lines : List Nat} {units : List υ}
    (hscope : tools.heuristic.scope selection feature = scope)
    (hscenarios : feature.hasScenarios = true)
    (hlines : feature.targetLines selection scope = lines)
    (hunits : List.Forall₂
      (fun line unit => tools.generate (feature.shown selection scope) line = .ok unit)
      lines units) :
    Generates tools (feature.shown selection scope) (scope = .feature) notices lines
      (tools.conclude selection feature notices).calls
      (tools.conclude selection feature notices).result := by
  have htagged : List.Forall₂
      (fun line unit => tools.tagged (feature.shown selection scope) line = .ok unit)
      (feature.targetLines selection scope) units := by
    rw [hlines]
    exact hunits.imp fun _ _ => tagged_eq_ok_iff.2
  obtain ⟨hasked, hcollected⟩ := collect_of_answered hscenarios htagged
  obtain ⟨hcalls, hresult⟩ := conclude_of_collected notices hscope hcollected
  rw [hcalls, hresult, hasked, hlines]
  -- no lines and no units is not an error, but then nothing is rendered
  cases hunits with
  | nil => exact .nothing
  | @cons line unit lines units hline hrest =>
      obtain ⟨hrendered, htext⟩ :=
        tools.output_of_ne_nil (List.cons_ne_nil unit units) (scope = .feature)
      rw [hrendered, htext]
      have hne : line :: lines ≠ [] := List.cons_ne_nil line lines
      cases hformat : tools.format (unit :: units) (scope = .feature) with
      | ok text => exact .rendered hne (.cons hline hrest) hformat
      | error cause => exact .unrendered hne (.cons hline hrest) hformat

/-- If a line is refused, a run goes as `Generates` says. -/
theorem generates_of_refused {before after : List Nat} {line : Nat} {cause : γ}
    (hscope : tools.heuristic.scope selection feature = scope)
    (hscenarios : feature.hasScenarios = true)
    (hlines : feature.targetLines selection scope = before ++ line :: after)
    (hbefore : ∀ earlier ∈ before, ∃ unit,
      tools.generate (feature.shown selection scope) earlier = .ok unit)
    (hline : tools.generate (feature.shown selection scope) line = .error cause) :
    Generates tools (feature.shown selection scope) (scope = .feature) notices
      (before ++ line :: after) (tools.conclude selection feature notices).calls
      (tools.conclude selection feature notices).result := by
  have htagged : ∀ earlier ∈ before, ∃ unit,
      tools.tagged (feature.shown selection scope) earlier = .ok unit := by
    intro earlier hearlier
    obtain ⟨unit, hunit⟩ := hbefore earlier hearlier
    exact ⟨unit, tagged_eq_ok_iff.2 hunit⟩
  obtain ⟨hasked, hfailed⟩ :=
    collect_of_refused hscenarios hlines htagged (tagged_of_error hline)
  obtain ⟨hcalls, hresult⟩ := conclude_of_refused notices hscope hfailed
  rw [hcalls, hresult, hasked]
  exact .refused hbefore hline

/-- What comes after translation goes as `Generates` says for the lines asked for. -/
theorem generates_conclude (hscope : tools.heuristic.scope selection feature = scope) :
    Generates tools (feature.shown selection scope) (scope = .feature) notices
      (feature.askedLines selection scope) (tools.conclude selection feature notices).calls
      (tools.conclude selection feature notices).result := by
  rw [Feature.askedLines]
  cases hscenarios : feature.hasScenarios with
  | false =>
      obtain ⟨hasked, hcollected⟩ :=
        collect_of_no_scenarios tools.tagged selection scope hscenarios
      obtain ⟨hcalls, hresult⟩ := conclude_of_collected notices hscope hcollected
      rw [hcalls, hresult, hasked]
      exact .nothing
  | true =>
      rcases answered_or_refused (tools.generate (feature.shown selection scope))
        (feature.targetLines selection scope) with
        ⟨units, hunits⟩ | ⟨before, line, after, cause, hlines, hbefore, hline⟩
      · exact generates_of_answered hscope hscenarios rfl hunits
      · rw [if_pos rfl, hlines]
        exact generates_of_refused hscope hscenarios hlines hbefore hline

end

/-! ### Runs -/

/-- If the text is parsed, the run goes as `Generates` says for the lines that the translated
feature asks for. -/
theorem generates_run {tools : Toolchain υ π γ φ} {text : String} {parsed feature : Feature}
    {notices : List Notice} (hparse : tools.parse text = .ok parsed)
    (htranslate : tools.lexicon.translateDeclared (declaredLanguage? text) parsed =
      (feature, notices)) (selection : Selection) {scope : Scope}
    (hscope : tools.heuristic.scope selection feature = scope) :
    Generates tools (feature.shown selection scope) (scope = .feature) notices
      (feature.askedLines selection scope) (tools.run text selection).calls
      (tools.run text selection).result := by
  obtain ⟨hcalls, hresult⟩ := run_of_parsed hparse htranslate selection
  rw [hcalls, hresult]
  exact generates_conclude hscope

/-- **What a run calls and how it ends.**  If the text is rejected, that is all.  Otherwise the
lines described by `AskedFor` decide, and the run goes as `Generates` says. -/
theorem run_generates (tools : Toolchain υ π γ φ) (text : String) (selection : Selection) :
    (∀ cause, tools.parse text = .error cause →
      (tools.run text selection).calls = [] ∧
        (tools.run text selection).result = .error (.parse cause)) ∧
    ∀ parsed, tools.parse text = .ok parsed →
      ∀ feature notices, tools.lexicon.translateDeclared (declaredLanguage? text) parsed =
          (feature, notices) →
        ∀ scope, tools.heuristic.scope selection feature = scope →
          ∃ lines, (∀ others, AskedFor feature selection scope others ↔ others = lines) ∧
            Generates tools (feature.shown selection scope) (scope = .feature) notices lines
              (tools.run text selection).calls (tools.run text selection).result := by
  constructor
  · intro cause hcause
    exact run_of_rejected hcause selection
  · intro parsed hparse feature notices htranslate scope hscope
    obtain ⟨hcalls, hresult⟩ := run_of_parsed hparse htranslate selection
    refine ⟨feature.askedLines selection scope, fun others => askedFor_iff, ?_⟩
    rw [hcalls, hresult]
    exact generates_conclude hscope

/-- The helpers that know one feature, have a number for each line but one, and count the units. -/
def refusing (feature : Feature) (refused : Nat) : Toolchain Nat String String String where
  lexicon := Lexicon.empty
  parse text := if text = "" then .error "empty" else .ok feature
  generate _ line := if line = refused then .error "refused" else .ok line
  format units _ := .ok units.length.repr

/-- A whole feature of which two scenarios share a line and the outline is refused. -/
theorem run_refuses_outline :
    ((refusing ⟨"Till", none, [], []⟩ 5).run "" ⟨1, 9, ""⟩).result = .error (.parse "empty") ∧
    ∃ feature, feature =
        ⟨"Till", none, [⟨"a", 7, []⟩, ⟨"b", 3, []⟩, ⟨"c", 3, []⟩], [⟨"d", 5, []⟩]⟩ ∧
      Generates (refusing feature 5) feature true [] [3, 3, 5, 7]
        ((refusing feature 5).run "Feature: Till" ⟨1, 9, ""⟩).calls
        ((refusing feature 5).run "Feature: Till" ⟨1, 9, ""⟩).result ∧
      ((refusing feature 5).run "Feature: Till" ⟨1, 9, ""⟩).calls =
        [3, 3, 5].map (Entry.asked feature) ∧
      ((refusing feature 5).run "Feature: Till" ⟨1, 9, ""⟩).result =
        .error (.generate 5 "refused") := by
  constructor
  · exact ((run_generates (refusing ⟨"Till", none, [], []⟩ 5) "" ⟨1, 9, ""⟩).1 "empty" rfl).2
  · refine ⟨_, rfl, ?_, rfl, rfl⟩
    obtain ⟨lines, hlines, hrun⟩ := (run_generates (refusing _ 5) "Feature: Till" ⟨1, 9, ""⟩).2
      ⟨"Till", none, [⟨"a", 7, []⟩, ⟨"b", 3, []⟩, ⟨"c", 3, []⟩], [⟨"d", 5, []⟩]⟩ rfl _ _ rfl _ rfl
    obtain rfl := (hlines [3, 3, 5, 7]).1
      (.feature (Or.inl (List.cons_ne_nil _ _)) (by decide) (by decide))
    exact hrun

end Toolchain

end FeaturePlan
