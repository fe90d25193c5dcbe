/-
Line ends and what depends on them.

How the lines of a file end is **no matter of its contents**.  A line feed behind the last line may
be missing, and every line feed may have a carriage return before it: the same feature is read, the
same lines are selected, and the same plan is made.

The missing line feed is the harder case, for it is not invisible.  A carriage return at the end of
the text belongs to the last line without it and to the line end with it, so the selected text
differs, and in a file that is nothing but a language header so does the declared code.  But no
scope depends on that carriage return, and no grammar finds a feature in such a file.

Main definitions:

* `Selection.UpToReturn`, selections that differ in a carriage return at most;
* `RejectsLoneHeaders`, grammars that reject a file with a language header and nothing else.

Main results:

* `Selection.UpToReturn.scope_eq`, `Toolchain.run_congr` — what runs for such selections have in
  common;
* `upToReturn_ofLines`, `declaredCode?_append_lineFeed` — what a line feed at the end changes;
* `missing_lineFeed_is_no_matter`, `carriage_returns_are_no_matter` — the two kinds of line ends.
-/

import FeaturePlan.Plan
import FeaturePlan.Proofs.Flattening
import FeaturePlan.Proofs.Generation
import FeaturePlan.Proofs.Gherkin.LoneHeader
import FeaturePlan.Proofs.LexiconEntries

set_option relaxedAutoImplicit false
set_option autoImplicit false

namespace FeaturePlan

/-! ### Selections of the same lines -/

/-- Two selections of the same lines.  The text of the second may have a carriage return at its end
that the text of the first has not. -/
structure Selection.UpToReturn (a b : Selection) : Prop where
  first : a.first = b.first
  last : a.last = b.last
  text : b.text.toList = a.text.toList ∨ b.text.toList = a.text.toList ++ ['\r']

namespace Selection.UpToReturn

variable {a b : Selection}

theorem refl (a : Selection) : a.UpToReturn a := ⟨rfl, rfl, Or.inl rfl⟩

theorem contains_eq (h : a.UpToReturn b) : a.contains = b.contains := by
  funext line
  rw [contains, contains, h.first, h.last]

theorem restrict_eq (h : a.UpToReturn b) (feature : Feature) :
    feature.restrict a = feature.restrict b := by
  simp only [Feature.restrict, restrictScenarios, h.contains_eq]

/-- The word for scenarios stands in both texts or in neither. -/
theorem mentions_eq (h : a.UpToReturn b) :
    Text.mentions scenarioWord.toList (Text.lower a.text.toList) =
      Text.mentions scenarioWord.toList (Text.lower b.text.toList) := by
  have hword : '\r' ∉ scenarioWord.toList := by decide
  rcases h.text with hsame | hreturn
  · rw [hsame]
  · rw [hreturn, Text.lower_append_return, Bool.eq_iff_iff, Text.mentions_iff, Text.mentions_iff,
      Text.infix_append_return_iff hword]

/-- The two selections mean the same. -/
theorem scope_eq (h : a.UpToReturn b) (heuristic : Heuristic) (feature : Feature) :
    heuristic.scope a feature = heuristic.scope b feature := by
  cases heuristic with
  | text => rw [Heuristic.scope, Heuristic.scope, scopeByText, scopeByText, h.first, h.mentions_eq]
  | structural =>
      rw [Heuristic.scope, Heuristic.scope, scopeByStructure, scopeByStructure, h.first,
        h.contains_eq]

/-- And they ask for the same units. -/
theorem collect_eq {υ ε : Type} (h : a.UpToReturn b) (generate : Feature → Nat → Except ε υ)
    (feature : Feature) (scope : Scope) :
    collect generate feature a scope = collect generate feature b scope := by
  have hunits : unitsOf generate feature a scope = unitsOf generate feature b scope := by
    cases scope with
    | feature => rfl
    | scenarios => rw [unitsOf, unitsOf, h.restrict_eq]
    | steps => rw [unitsOf, unitsOf, h.first, h.last]
  rw [collect, collect, hunits]

end Selection.UpToReturn

/-- **Runs do not see how lines end**, if the parser does not and the declared language is the
same. -/
theorem Toolchain.run_congr {υ π γ φ : Type} {tools : Toolchain υ π γ φ} {text other : String}
    {a b : Selection} (hparse : tools.parse text = tools.parse other)
    (hdeclared : ∀ parsed, tools.parse text = .ok parsed →
      declaredLanguage? text = declaredLanguage? other)
    (hselection : a.UpToReturn b) : tools.run text a = tools.run other b := by
  cases hparsed : tools.parse text with
  | error cause =>
      rw [run, run, ← hparse, hparsed]
      rfl
  | ok parsed =>
      rw [run, run, ← hparse, hdeclared parsed hparsed]
      simp only [hselection.scope_eq, hselection.collect_eq, hselection.first, hselection.last]

/-! ### Selected lines -/

theorem Selection.coveredLines_append (first last number : Nat) (front back : List (List Char)) :
    coveredLines first last number (front ++ back) =
      coveredLines first last number front ++
        coveredLines first last (number + front.length) back := by
  induction front generalizing number with
  | nil => rfl
  | cons line rest ih =>
      have hnumber : number + 1 + rest.length = number + (line :: rest).length := by
        rw [List.length_cons]
        omega
      rw [List.cons_append, coveredLines, coveredLines, ih, hnumber]
      split
      · rw [List.cons_append]
      · rfl

/-! ### A missing line feed -/

section

variable {text : String}

/-- Without the line feed at the end of a text, the selected text may have a carriage return
more. -/
theorem upToReturn_ofLines (hsome : text ≠ "") (hend : text.toList.getLast? ≠ some '\n')
    (first : Nat) (last? : Option Nat) :
    (Selection.ofLines (text ++ "\n") first last?).UpToReturn
      (Selection.ofLines text first last?) := by
  have hcs : text.toList ≠ [] := fun hnil => hsome (String.toList_eq_nil_iff.1 hnil)
  obtain ⟨before, last, hlines, hclosed⟩ := Text.lines_append_lineFeed hcs hend
  have htext : (text ++ "\n").toList = text.toList ++ ['\n'] := String.toList_append
  refine ⟨rfl, ?_, ?_⟩
  · simp only [Selection.ofLines, htext, hlines, hclosed, List.length_append, List.length_singleton]
  · simp only [Selection.ofLines, htext, hlines, hclosed, List.length_append, List.length_singleton,
      String.toList_ofList, Selection.coveredLines_append, Selection.coveredLines]
    split
    · -- the last line is selected, and only there the two texts may differ
      obtain ⟨front, hfront⟩ := Text.exists_joinLines_concat
        (Selection.coveredLines first (last?.getD (before.length + 1)) 1 before)
      rw [hfront, hfront]
      rcases dropReturn_eq_or last with hsame | hreturn
      · exact Or.inl (by rw [hsame])
      · exact Or.inr (by rw [List.append_assoc, ← hreturn])
    · exact Or.inl rfl

theorem declaredCode?_of_no_header {cs : List Char}
    (h : ∀ first, (Text.lines cs).head? = some first → ¬languageHeader.toList <+: first) :
    declaredCode? cs = none := by
  cases hfirst : (Text.lines cs).head? with
  | none => rw [declaredCode?, hfirst]; rfl
  | some first =>
      have hdrop : Text.dropFront? languageHeader.toList first = none := by
        refine Option.eq_none_iff_forall_ne_some.2 fun code hcode => h first hfirst ?_
        exact ⟨code, (Text.dropFront?_eq_some_iff.1 hcode).symm⟩
      rw [declaredCode?, hfirst, Option.bind_eq_bind, Option.bind_some, hdrop]
      rfl

/-- A line feed at the end changes the declared code in a file with a language header and nothing
else, if at all. -/
theorem declaredCode?_append_lineFeed {cs : List Char} (hsome : cs ≠ []) :
    declaredCode? (cs ++ ['\n']) = declaredCode? cs ∨
      ('\n' ∉ cs ∧ languageHeader.toList <+: cs) := by
  by_cases hfeed : '\n' ∈ cs
  · -- the first line ends before the text does
    obtain ⟨line, rest, rfl, hline⟩ := List.eq_append_cons_of_mem hfeed
    refine Or.inl ?_
    rw [declaredCode?, declaredCode?, List.append_assoc, List.cons_append,
      Text.lines_append_cons hline, Text.lines_append_cons hline]
    rfl
  by_cases hheader : languageHeader.toList <+: cs
  · exact Or.inr ⟨hfeed, hheader⟩
  have hopen : declaredCode? cs = none := by
    refine declaredCode?_of_no_header fun first hfirst => ?_
    rw [Text.lines_of_not_mem hsome hfeed] at hfirst
    rwa [← Option.some.inj hfirst]
  have hclosed : declaredCode? (cs ++ ['\n']) = none := by
    refine declaredCode?_of_no_header fun first hfirst hprefix => hheader ?_
    rw [Text.lines_append_cons hfeed []] at hfirst
    rw [← Option.some.inj hfirst] at hprefix
    rcases dropReturn_eq_or cs with hsame | hreturn
    · rwa [hsame] at hprefix
    · rw [hreturn]
      exact hprefix.trans (List.prefix_append _ _)
  exact Or.inl (by rw [hopen, hclosed])

/-- A grammar that finds no feature in a file whose only line begins like a language header. -/
def RejectsLoneHeaders {π : Type} (grammar : List Char → Except π Gherkin.Document) : Prop :=
  ∀ line : List Char, '\n' ∉ line → languageHeader.toList <+: line →
    ∃ cause, grammar (line ++ ['\n']) = .error cause

/-- A feature that is read knows the declared language. -/
theorem language_of_readWith {π : Type} {grammar : List Char → Except π Gherkin.Document}
    {feature : Feature} (h : Feature.readWith grammar text = .ok feature) :
    feature.language = declaredLanguage? text := by
  cases hgrammar : grammar (Gherkin.closeLine text.toList) with
  | error cause =>
      rw [Feature.readWith, hgrammar] at h
      cases h
  | ok document =>
      rw [Feature.readWith_of_ok hgrammar] at h
      obtain rfl := Except.ok.inj h
      rfl

/-- The same is read with a line feed at the end and without it. -/
theorem readWith_append_lineFeed {π : Type} {grammar : List Char → Except π Gherkin.Document}
    (hgrammar : RejectsLoneHeaders grammar) (hsome : text ≠ "")
    (hend : text.toList.getLast? ≠ some '\n') :
    Feature.readWith grammar (text ++ "\n") = Feature.readWith grammar text := by
  have hcs : text.toList ≠ [] := fun hnil => hsome (String.toList_eq_nil_iff.1 hnil)
  have htext : (text ++ "\n").toList = text.toList ++ ['\n'] := String.toList_append
  have hclosed : Gherkin.closeLine (text ++ "\n").toList = Gherkin.closeLine text.toList := by
    rw [htext, Gherkin.closeLine_append_lineFeed, Gherkin.closeLine_of_getLast? hend]
  rcases declaredCode?_append_lineFeed hcs with hsame | ⟨hfeed, hheader⟩
  · rw [Feature.readWith, Feature.readWith, hclosed, declaredLanguage?, declaredLanguage?, htext,
      hsame]
  · obtain ⟨cause, hcause⟩ := hgrammar text.toList hfeed hheader
    rw [← Gherkin.closeLine_of_getLast? hend] at hcause
    rw [Feature.readWith, Feature.readWith, hclosed, hcause]
    rfl

end

/-- **A missing line feed at the end is no matter.**  If the grammar rejects files with a language
header and nothing else, then the same feature is read and the same plan made whether the last line
of a text is ended or not. -/
theorem missing_lineFeed_is_no_matter {π φ : Type} {grammar : List Char → Except π Gherkin.Document}
    (hgrammar : RejectsLoneHeaders grammar) {text : String} (hsome : text ≠ "")
    (hend : text.toList.getLast? ≠ some '\n') (printJson : Json → Except φ String) :
    Feature.readWith grammar (text ++ "\n") = Feature.readWith grammar text ∧
      ∀ first last? settings,
        planWith (Feature.readWith grammar) printJson (text ++ "\n")
            (Selection.ofLines (text ++ "\n") first last?) settings =
          planWith (Feature.readWith grammar) printJson text
            (Selection.ofLines text first last?) settings := by
  have hread := readWith_append_lineFeed hgrammar hsome hend
  refine ⟨hread, fun first last? settings => ?_⟩
  refine Toolchain.run_congr hread (fun parsed hparsed => ?_) (upToReturn_ofLines hsome hend _ _)
  have hclosed : parsed.language = declaredLanguage? (text ++ "\n") := language_of_readWith hparsed
  have hopen : parsed.language = declaredLanguage? text :=
    language_of_readWith (hread.symm.trans hparsed)
  exact hclosed.symm.trans hopen

/-- The grammar of feature files is of this kind. -/
theorem Gherkin.Document.rejectsLoneHeaders_parse : RejectsLoneHeaders Gherkin.Document.parse :=
  fun _ hline hheader => Gherkin.Document.parse_loneHeader hline hheader

/-- A scenario whose last step ends in a carriage return, which is selected without the line feed
only, and a language header alone, which declares another code with the line feed. -/
theorem missing_lineFeed_is_no_matter_return :
    (Selection.ofLines "Feature: Till\n  Scenario: a\n    * x\r" 3 none).text = "    * x\r" ∧
    (Selection.ofLines ("Feature: Till\n  Scenario: a\n    * x\r" ++ "\n") 3 none).text =
      "    * x" ∧
    plan ("Feature: Till\n  Scenario: a\n    * x\r" ++ "\n")
        (Selection.ofLines ("Feature: Till\n  Scenario: a\n    * x\r" ++ "\n") 3 none) {} =
      plan "Feature: Till\n  Scenario: a\n    * x\r"
        (Selection.ofLines "Feature: Till\n  Scenario: a\n    * x\r" 3 none) {} ∧
    declaredLanguage? "# language: en\r\r" = some "en\r" ∧
    declaredLanguage? ("# language: en\r\r" ++ "\n") = some "en" ∧
    Feature.read ("# language: en\r\r" ++ "\n") = Feature.read "# language: en\r\r" := by
  have hgrammar := Gherkin.Document.rejectsLoneHeaders_parse
  refine ⟨by decide +kernel, by decide +kernel, ?_, by decide +kernel, by decide +kernel, ?_⟩
  · exact (missing_lineFeed_is_no_matter hgrammar (by decide +kernel) (by decide +kernel)
      Json.write).2 3 none {}
  · exact (missing_lineFeed_is_no_matter hgrammar (by decide +kernel) (by decide +kernel)
      Json.write).1

/-! ### Carriage returns -/

/-- The text with a carriage return before each line feed. -/
def withReturns (text : String) : String := String.ofList (Text.withReturns text.toList)

theorem lines_withReturns {text : String} (h : '\r' ∉ text.toList) :
    Text.lines (withReturns text).toList = Text.lines text.toList := by
  rw [withReturns, String.toList_ofList, Text.lines_withReturns h]

/-- **Carriage returns before line feeds are no matter.**  In a text without other carriage returns,
they change neither the declared language nor what is selected nor what it means.  So if the parser
finds the same, the run of any toolchain is the same: the calls, the notices and the result. -/
theorem carriage_returns_are_no_matter (text : String) (htext : '\r' ∉ text.toList) :
    declaredLanguage? (withReturns text) = declaredLanguage? text ∧
    (∀ first last?,
      Selection.ofLines (withReturns text) first last? = Selection.ofLines text first last?) ∧
    (∀ first last? (heuristic : Heuristic) (feature : Feature),
      heuristic.scope (Selection.ofLines (withReturns text) first last?) feature =
        heuristic.scope (Selection.ofLines text first last?) feature) ∧
    ∀ (υ π γ φ : Type) (tools : Toolchain υ π γ φ),
      tools.parse (withReturns text) = tools.parse text → ∀ first last?,
        tools.run (withReturns text) (Selection.ofLines (withReturns text) first last?) =
          tools.run text (Selection.ofLines text first last?) := by
  have hlines := lines_withReturns htext
  have hdeclared : declaredLanguage? (withReturns text) = declaredLanguage? text := by
    rw [declaredLanguage?, declaredLanguage?, declaredCode?, declaredCode?, hlines]
  have hselection (first : Nat) (last? : Option Nat) :
      Selection.ofLines (withReturns text) first last? = Selection.ofLines text first last? := by
    rw [Selection.ofLines, Selection.ofLines, hlines]
  refine ⟨hdeclared, hselection, fun first last? heuristic feature => ?_,
    fun υ π γ φ tools hparse first last? => ?_⟩
  · rw [hselection]
  · rw [hselection]
    exact Toolchain.run_congr hparse (fun _ _ => hdeclared) (.refl _)

/-- A French file with an empty line and a last line that is not ended. -/
def frenchText : String :=
  "# language: fr\nFonctionnalité: Caisse\n\n  Scénario: a\n    Soit x"

/-- The feature in it, with the given keyword for its step. -/
def frenchFeature (keyword : String) : Feature :=
  ⟨"Caisse", some "fr", [⟨"a", 4, [⟨keyword, "x", 5⟩]⟩], []⟩

/-- The plan for its last line is made from the same lines, whichever way they end. -/
theorem carriage_returns_are_no_matter_french :
    '\r' ∉ frenchText.toList ∧
    Feature.read (withReturns frenchText) = Feature.read frenchText ∧
    declaredLanguage? (withReturns frenchText) = some "fr" ∧
    (Selection.ofLines (withReturns frenchText) 5 none).text = "    Soit x" ∧
    (plan (withReturns frenchText) (Selection.ofLines (withReturns frenchText) 5 none) {}).result =
      .ok ⟨some "5: given x", []⟩ := by
  have hreturn : '\r' ∉ frenchText.toList := by decide +kernel
  have hread : Feature.read frenchText = .ok (frenchFeature "soit") :=
    eq_ok_of_toOption (by decide +kernel)
  have hread' : Feature.read (withReturns frenchText) = .ok (frenchFeature "soit") :=
    eq_ok_of_toOption (by decide +kernel)
  have hsame := hread'.trans hread.symm
  have hfrench : declaredLanguage? frenchText = some "fr" := by decide +kernel
  have hget : Lexicon.builtin.get? "fr" = some Dialect.french.steps :=
    Lexicon.get?_builtin_of_mem Dialect.french_mem
  obtain ⟨hdeclared, hselection, -, hrun⟩ := carriage_returns_are_no_matter frenchText hreturn
  refine ⟨hreturn, hsame, ?_, ?_, ?_⟩
  · rw [hdeclared, hfrench]
  · rw [hselection]
    decide +kernel
  · have hparse : (planTools Feature.read Json.write {}).parse (withReturns frenchText) =
        (planTools Feature.read Json.write {}).parse frenchText := by
      simpa only [planTools] using hsame
    have hparsed : (planTools Feature.read Json.write {}).parse frenchText =
        .ok (frenchFeature "soit") := by
      simpa only [planTools] using hread
    have htranslate : (planTools Feature.read Json.write {}).lexicon.translateDeclared
        (declaredLanguage? frenchText) (frenchFeature "soit") = (frenchFeature "given", []) := by
      rw [planTools, hfrench, Lexicon.translateDeclared, Lexicon.translate, Translator.ofLexicon,
        hget]
      decide +kernel
    have hplan := hrun PlanUnit SyntaxError Empty Empty (planTools Feature.read Json.write {})
      hparse 5 none
    rw [plan, planWith, hplan, (Toolchain.run_of_parsed hparsed htranslate _).2]
    exact eq_ok_of_toOption (by decide +kernel)

end FeaturePlan
