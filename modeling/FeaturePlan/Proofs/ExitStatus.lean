/-
What the exit status tells.

Several things may be wrong at once, and the status tells the one that is **looked at first**.  The
environment comes before the file, and all of it counts: a variable with a value that is rejected is
a mistake even where the arguments make it superfluous.  Of the file it counts whether it can be
read, whether it is a text, and whether the grammar accepts the text; after that nothing can fail
any more, since there is a unit for every line and a printer that never fails.

An invalid environment that is **overlooked** is no mistake, and the status does not tell of it.

Main definitions:

* `NeverFails`, printers that print every value;
* `Unplannable`, what is wrong with a file;
* `Response.Prints`, responses that print a generation.

Main results:

* `Toolchain.run_of_infallible` — if generator and renderer never fail, only the parser can;
* `Equipment.plan_cases` — a plan fails just when the grammar rejects its text;
* `Equipment.answer_cases`, `Equipment.respond_cases` — what the command makes of the file and of
  the environment;
* `exit_status_tells_first_mistake` — the response to arguments that ask for a plan;
* `exit_status_of_overlooked_environment` — an invalid environment, and yet status 0.
-/

import FeaturePlan.Host
import FeaturePlan.Proofs.Environment
import FeaturePlan.Proofs.Flattening
import FeaturePlan.Proofs.Generation
import FeaturePlan.Proofs.UnknownLanguages

set_option relaxedAutoImplicit false
set_option autoImplicit false

namespace FeaturePlan

/-! ### Runs that only the parser can fail -/

section

variable {υ π γ φ : Type} {tools : Toolchain υ π γ φ}

/-- If there is a unit for every line and a text for all units, a run comes to a result. -/
theorem Generates.exists_ok {shown : Feature} {whole : Bool} {notices : List Notice}
    {lines : List Nat} {calls : List (Entry υ)} {result : Except (Failure π γ φ) Generation}
    (h : Generates tools shown whole notices lines calls result)
    (hgenerate : ∀ feature line, ∃ unit, tools.generate feature line = .ok unit)
    (hformat : ∀ units whole, ∃ text, tools.format units whole = .ok text) :
    ∃ generation, result = .ok generation := by
  cases h with
  | nothing => exact ⟨_, rfl⟩
  | rendered _ _ _ => exact ⟨_, rfl⟩
  | @unrendered _ units cause _ _ hcause =>
      obtain ⟨text, htext⟩ := hformat units whole
      rw [htext] at hcause
      cases hcause
  | @refused _ _ line cause _ hline =>
      obtain ⟨unit, hunit⟩ := hgenerate shown line
      rw [hunit] at hline
      cases hline

/-- **If generator and renderer never fail, a run fails just when its text is rejected.** -/
theorem Toolchain.run_of_infallible (tools : Toolchain υ π γ φ)
    (hgenerate : ∀ feature line, ∃ unit, tools.generate feature line = .ok unit)
    (hformat : ∀ units whole, ∃ text, tools.format units whole = .ok text)
    (text : String) (selection : Selection) :
    (∃ cause, tools.parse text = .error cause ∧
      (tools.run text selection).result = .error (.parse cause)) ∨
    ∃ parsed generation, tools.parse text = .ok parsed ∧
      (tools.run text selection).result = .ok generation := by
  cases hparse : tools.parse text with
  | error cause => exact Or.inl ⟨cause, rfl, (run_of_rejected hparse selection).2⟩
  | ok parsed =>
      have hrun := generates_run hparse rfl selection rfl
      obtain ⟨generation, hresult⟩ := hrun.exists_ok hgenerate hformat
      exact Or.inr ⟨parsed, generation, rfl, hresult⟩

end

/-! ### Plans -/

section

variable {π φ : Type} {printJson : Json → Except φ String}

/-- A printer that prints every value. -/
def NeverFails (printJson : Json → Except φ String) : Prop :=
  ∀ value, ∃ text, printJson value = .ok text

theorem neverFails_write : NeverFails Json.write := fun _ => ⟨_, rfl⟩

/-- With such a printer every plan can be written in both forms. -/
theorem NeverFails.renderWith (h : NeverFails printJson) (format : PlanFormat)
    (units : List PlanUnit) (whole : Bool) :
    ∃ text, format.renderWith printJson units whole = .ok text := by
  cases format with
  | text => exact ⟨_, rfl⟩
  | json => exact h (planJson units whole)

/-- A plan fails just when its text is rejected. -/
theorem planWith_cases (parse : String → Except π Feature) (hprint : NeverFails printJson)
    (source : String) (selection : Selection) (settings : Settings) :
    (∃ cause, parse source = .error cause ∧
      (planWith parse printJson source selection settings).result = .error (.parse cause)) ∨
    ∃ parsed generation, parse source = .ok parsed ∧
      (planWith parse printJson source selection settings).result = .ok generation :=
  (planTools parse printJson settings).run_of_infallible (fun _ _ => ⟨_, rfl⟩)
    (hprint.renderWith settings.format) source selection

/-- A text is read just when the grammar accepts it. -/
theorem Feature.readWith_cases (grammar : List Char → Except π Gherkin.Document)
    (source : String) :
    (∃ cause, grammar (Gherkin.closeLine source.toList) = .error cause ∧
      Feature.readWith grammar source = .error cause) ∨
    ∃ document feature, grammar (Gherkin.closeLine source.toList) = .ok document ∧
      Feature.readWith grammar source = .ok feature := by
  cases h : grammar (Gherkin.closeLine source.toList) with
  | error cause => exact Or.inl ⟨cause, rfl, by rw [readWith, h]; rfl⟩
  | ok document => exact Or.inr ⟨document, _, rfl, readWith_of_ok h⟩

end

/-! ### The file -/

section

variable {π : Type} {grammar : List Char → Except π Gherkin.Document}

/-- Why a file is not planned. -/
inductive Unplannable (grammar : List Char → Except π Gherkin.Document)
    (contents : Option ByteArray) : Prop where
  /-- The file cannot be read. -/
  | unreadable (h : contents = none)
  /-- What it contains is not a text in UTF-8. -/
  | notText (h : NoText contents)
  /-- It contains a text that the grammar rejects. -/
  | noFeature {source : String} {cause : π} (h : contents = some source.toUTF8)
      (hcause : grammar (Gherkin.closeLine source.toList) = .error cause)

theorem not_unplannable {source : String} {document : Gherkin.Document}
    (h : grammar (Gherkin.closeLine source.toList) = .ok document) :
    ¬Unplannable grammar (some source.toUTF8) := by
  rintro (hnone | ⟨bytes, hbytes, hno⟩ | ⟨hbytes, hcause⟩)
  · cases hnone
  · exact hno source (Option.some.inj hbytes).symm
  · obtain rfl := String.toByteArray_inj.1 (Option.some.inj hbytes)
    rw [h] at hcause
    cases hcause

end

/-! ### Responses -/

/-- The response prints a generation: its output, if there is any, with a line end, and a warning
for each notice. -/
structure Response.Prints (response : Response) (generation : Generation) : Prop where
  exit : response.exit = 0
  some_output : ∀ text, generation.output = some text → response.output = text ++ "\n"
  no_output : generation.output = none → response.output = ""
  warnings : response.warnings = generation.notices.map fun notice => "warning: " ++ notice.message

namespace Equipment

variable {ι δ π φ : Type} {equipment : Equipment ι δ π φ}

/-- A plan fails just when the grammar rejects its text. -/
theorem plan_cases (hprint : NeverFails equipment.printJson) (source : String)
    (selection : Selection) (settings : Settings) :
    (∃ cause, equipment.grammar (Gherkin.closeLine source.toList) = .error cause ∧
      (equipment.plan source selection settings).result = .error (.parse cause)) ∨
    ∃ document generation,
      equipment.grammar (Gherkin.closeLine source.toList) = .ok document ∧
      (equipment.plan source selection settings).result = .ok generation := by
  have hplan := planWith_cases (Feature.readWith equipment.grammar) hprint source selection settings
  rcases Feature.readWith_cases equipment.grammar source with
    ⟨cause, hcause, hread⟩ | ⟨document, feature, hdocument, hread⟩
  · rcases hplan with ⟨other, hother, hresult⟩ | ⟨parsed, generation, hparsed, -⟩
    · obtain rfl := Except.error.inj (hread.symm.trans hother)
      exact Or.inl ⟨cause, hcause, hresult⟩
    · cases hread.symm.trans hparsed
  · rcases hplan with ⟨other, hother, -⟩ | ⟨parsed, generation, -, hresult⟩
    · cases hread.symm.trans hother
    · exact Or.inr ⟨document, generation, hdocument, hresult⟩

/-- There is one reason why a plan fails. -/
theorem exists_parse_of_plan_error (hprint : NeverFails equipment.printJson) {source : String}
    {selection : Selection} {settings : Settings} {failure : Failure π Empty φ}
    (h : (equipment.plan source selection settings).result = .error failure) :
    ∃ cause, failure = .parse cause ∧
      equipment.grammar (Gherkin.closeLine source.toList) = .error cause := by
  rcases equipment.plan_cases hprint source selection settings with
    ⟨cause, hcause, hresult⟩ | ⟨document, generation, -, hresult⟩
  · rw [hresult, Except.error.injEq] at h
    exact ⟨cause, h.symm, hcause⟩
  · rw [hresult] at h
    cases h

variable {request : PlanRequest δ} {settings : Settings} {source : String}

/-- The response to a text that is no feature file. -/
theorem answerText_of_error {failure : Failure π Empty φ}
    (h : (equipment.plan source (Selection.ofLines source request.first request.last)
      settings).result = .error failure) :
    (equipment.answerText request settings source).exit = 1 ∧
      (equipment.answerText request settings source).output = "" := by
  simp only [answerText, h, and_self]

/-- The response that prints a generation. -/
theorem answerText_of_ok {generation : Generation}
    (h : (equipment.plan source (Selection.ofLines source request.first request.last)
      settings).result = .ok generation) :
    (equipment.answerText request settings source).Prints generation := by
  rw [answerText, h]
  refine ⟨rfl, fun text htext => ?_, fun hnone => ?_, rfl⟩
  · simp only [htext]
  · simp only [hnone]

/-- **What the command makes of a file.** -/
theorem answer_cases (hprint : NeverFails equipment.printJson) (request : PlanRequest δ)
    (settings : Settings) (contents : Option ByteArray) :
    (Unplannable equipment.grammar contents ∧
      (equipment.answer request settings contents).exit = 1 ∧
      (equipment.answer request settings contents).output = "") ∨
    (¬Unplannable equipment.grammar contents ∧ ∃ source generation,
      contents = some source.toUTF8 ∧
      (equipment.plan source (Selection.ofLines source request.first request.last)
        settings).result = .ok generation ∧
      (equipment.answer request settings contents).Prints generation) := by
  cases contents with
  | none => exact Or.inl ⟨.unreadable rfl, rfl, rfl⟩
  | some bytes =>
      rw [answer]
      cases htext : String.fromUTF8? bytes with
      | none => exact Or.inl ⟨.notText (noText_iff.2 ⟨bytes, rfl, htext⟩), rfl, rfl⟩
      | some source =>
          obtain rfl := fromUTF8?_eq_some_iff.1 htext
          rcases plan_cases hprint source (Selection.ofLines source request.first request.last)
              settings with
            ⟨cause, hcause, hresult⟩ | ⟨document, generation, hdocument, hresult⟩
          · exact Or.inl ⟨.noFeature rfl hcause, answerText_of_error hresult⟩
          · refine Or.inr ⟨?_, source, generation, rfl, hresult, answerText_of_ok hresult⟩
            exact not_unplannable hdocument

/-! ### The command -/

/-- What the command makes of the environment before it looks at the file. -/
theorem respond_cases {arguments : ι}
    (harguments : equipment.readArguments arguments = .ok request)
    (environment : String → Option ByteArray) (contents : δ → Option ByteArray) :
    (RejectedEnvironment environment ∧
      (equipment.respond arguments environment contents).exit = 2 ∧
      (equipment.respond arguments environment contents).output = "") ∨
    (¬RejectedEnvironment environment ∧ ∃ settings, Settings.load environment = .ok settings ∧
      equipment.respond arguments environment contents =
        equipment.answer request (settings.override request.overrides)
          (contents request.file)) := by
  rcases Settings.load_cases environment with
    ⟨hrejected, e, he⟩ | ⟨haccepted, settings, hsettings⟩
  · have hprepare : equipment.prepare arguments environment =
        .settled { exit := 2, log := ["error " ++ e.message] } := by
      rw [prepare, harguments]
      simp only [he]
    refine Or.inl ⟨hrejected, ?_⟩
    rw [respond, hprepare]
    exact ⟨rfl, rfl⟩
  · have hprepare : equipment.prepare arguments environment =
        .pending request (settings.override request.overrides) := by
      rw [prepare, harguments]
      simp only [hsettings]
    refine Or.inr ⟨haccepted, settings, hsettings, ?_⟩
    rw [respond, hprepare]

end Equipment

section

variable {ι δ π φ : Type} {equipment : Equipment ι δ π φ} {arguments : ι} {request : PlanRequest δ}
  {environment : String → Option ByteArray} {contents : δ → Option ByteArray} {response : Response}

/-- **The exit status tells what was wrong first.**  It is 2 just if a variable is set to a text
that is rejected, whatever the arguments and the file say; else 1 just for a file that is not
planned, and then nothing is printed; else the plan is printed, with a warning for each notice.  A
plan fails for one reason only.  So the status is 2 just for the invalid environments, unless they
are overlooked. -/
theorem exit_status_tells_first_mistake (hprint : NeverFails equipment.printJson)
    (harguments : equipment.readArguments arguments = .ok request)
    (hresponse : equipment.respond arguments environment contents = response) :
    (response.exit = 2 ↔ RejectedEnvironment environment) ∧
    (response.exit = 1 ↔
      ¬RejectedEnvironment environment ∧
        Unplannable equipment.grammar (contents request.file)) ∧
    (response.exit ≠ 0 → response.output = "") ∧
    (¬RejectedEnvironment environment → ¬Unplannable equipment.grammar (contents request.file) →
      ∃ settings source generation, Settings.load environment = .ok settings ∧
        contents request.file = some source.toUTF8 ∧
        (equipment.plan source (Selection.ofLines source request.first request.last)
          (settings.override request.overrides)).result = .ok generation ∧
        response.Prints generation) ∧
    (∀ (source : String) (selection : Selection) (settings : Settings)
      (failure : Failure π Empty φ),
      (equipment.plan source selection settings).result = .error failure →
        ∃ cause, failure = .parse cause ∧
          equipment.grammar (Gherkin.closeLine source.toList) = .error cause) ∧
    ((response.exit = 2 ↔ InvalidEnvironment environment) ↔
      ¬OverlookedEnvironment environment) := by
  have hfails (source : String) (selection : Selection) (settings : Settings)
      (failure : Failure π Empty φ)
      (hfailure : (equipment.plan source selection settings).result = .error failure) :
      ∃ cause, failure = .parse cause ∧
        equipment.grammar (Gherkin.closeLine source.toList) = .error cause :=
    Equipment.exists_parse_of_plan_error hprint hfailure
  have hinvalid (htwo : response.exit = 2 ↔ RejectedEnvironment environment) :
      (response.exit = 2 ↔ InvalidEnvironment environment) ↔
        ¬OverlookedEnvironment environment := by
    rw [htwo]
    exact rejected_iff_invalid_iff environment
  rcases Equipment.respond_cases harguments environment contents with
    ⟨hrejected, hexit, houtput⟩ | ⟨haccepted, settings, hsettings, hrespond⟩
  · rw [hresponse] at hexit houtput
    have htwo : response.exit = 2 ↔ RejectedEnvironment environment := iff_of_true hexit hrejected
    refine ⟨htwo, iff_of_false ?_ fun h => h.1 hrejected, fun _ => houtput,
      fun h => absurd hrejected h, hfails, hinvalid htwo⟩
    omega
  · rw [hresponse] at hrespond
    rcases Equipment.answer_cases hprint request (settings.override request.overrides)
        (contents request.file) with
      ⟨hbad, hexit, houtput⟩ | ⟨hgood, source, generation, hfile, hresult, hprints⟩
    · rw [← hrespond] at hexit houtput
      have htwo : response.exit = 2 ↔ RejectedEnvironment environment :=
        iff_of_false (by omega) haccepted
      exact ⟨htwo, iff_of_true hexit ⟨haccepted, hbad⟩, fun _ => houtput,
        fun _ hgood => absurd hbad hgood, hfails, hinvalid htwo⟩
    · rw [← hrespond] at hprints
      have hexit := hprints.exit
      have htwo : response.exit = 2 ↔ RejectedEnvironment environment :=
        iff_of_false (by omega) haccepted
      refine ⟨htwo, iff_of_false ?_ fun h => hgood h.2, fun h => absurd hexit h,
        fun _ _ => ⟨settings, source, generation, hsettings, hfile, hresult, hprints⟩, hfails,
        hinvalid htwo⟩
      omega

end

/-- A French file whose header has a space too many, so that it declares no known language. -/
def misdeclaredText : String :=
  "# language:  fr\nFonctionnalité: Caisse\n  Scénario: a\n    Soit x\n"

/-- Its last line is planned as it stands, with a notice. -/
theorem plan_misdeclaredText :
    (standardEquipment.plan misdeclaredText (Selection.ofLines misdeclaredText 4 none) {}).result =
      .ok ⟨some "4: soit x", [.unknownLanguage " fr"]⟩ := by
  have hparsed : (planTools (Feature.readWith standardEquipment.grammar) Json.write {}).parse
      misdeclaredText = .ok ⟨"Caisse", some " fr", [⟨"a", 3, [⟨"soit", "x", 4⟩]⟩], []⟩ :=
    eq_ok_of_toOption (by decide +kernel)
  have hunknown : Lexicon.builtin.contains " fr" = false :=
    Lexicon.contains_builtin_eq_false (by decide +kernel)
  have htranslate := Lexicon.translateDeclared_of_unknown hunknown
    ⟨"Caisse", some " fr", [⟨"a", 3, [⟨"soit", "x", 4⟩]⟩], []⟩
  have hdeclared : declaredLanguage? misdeclaredText = some " fr" := by decide +kernel
  rw [← hdeclared] at htranslate
  rw [Equipment.plan, planWith]
  exact (Toolchain.run_of_parsed hparsed htranslate _).2.trans
    (eq_ok_of_toOption (by decide +kernel))

/-- A variable that is rejected although it is overridden, a missing file, and a file with a plan
and a notice. -/
theorem exit_status_tells_first_mistake_caisse :
    ((standardEquipment.respond ["caisse.feature", "--format=text"]
        (fun name => if name = formatVariable then some "yaml".toUTF8 else none)
        fun _ => none).exit = 2) ∧
    ((standardEquipment.respond ["caisse.feature", "--start=4"] (fun _ => none)
        fun _ => none).exit = 1) ∧
    ∃ response,
      standardEquipment.respond ["caisse.feature", "--start=4"] (fun _ => none)
        (fun _ => some misdeclaredText.toUTF8) = response ∧
      response.exit = 0 ∧ response.output = "4: soit x\n" ∧
      response.warnings =
        ["warning: cannot find language ' fr'; steps were not translated"] := by
  have haccepted : ¬RejectedEnvironment fun _ => none := by
    rintro (⟨_, _, hnone, -⟩ | ⟨_, _, hnone, -⟩ | ⟨_, _, hnone, -⟩) <;> cases hnone
  have hformat : standardEquipment.readArguments ["caisse.feature", "--format=text"] =
      .ok ⟨"caisse.feature", 1, none, ⟨none, none, some .text⟩⟩ := rfl
  have hstart : standardEquipment.readArguments ["caisse.feature", "--start=4"] =
      .ok ⟨"caisse.feature", 4, none, {}⟩ := rfl
  refine ⟨?_, ?_, _, rfl, ?_⟩
  · have hrejected : RejectedEnvironment fun name =>
        if name = formatVariable then some "yaml".toUTF8 else none :=
      Or.inr (Or.inr ⟨"yaml", ⟨"yaml"⟩, rfl, rfl⟩)
    exact (exit_status_tells_first_mistake neverFails_write hformat rfl).1.2 hrejected
  · exact (exit_status_tells_first_mistake neverFails_write hstart rfl).2.1.2
      ⟨haccepted, .unreadable rfl⟩
  · have hgrammar : standardEquipment.grammar (Gherkin.closeLine misdeclaredText.toList) =
        .ok ⟨"Caisse", [⟨"a", 3, [⟨"Soit ", "x", 4⟩], []⟩], []⟩ :=
      eq_ok_of_toOption (by decide +kernel)
    have hrespond : standardEquipment.respond ["caisse.feature", "--start=4"] (fun _ => none)
        (fun _ => some misdeclaredText.toUTF8) = _ := rfl
    obtain ⟨settings, source, generation, hsettings, hsource, hresult, hprints⟩ :=
      (exit_status_tells_first_mistake neverFails_write hstart hrespond).2.2.2.1 haccepted
        (not_unplannable hgrammar)
    obtain rfl := String.toByteArray_inj.1 (Option.some.inj hsource)
    obtain rfl := Except.ok.inj hsettings
    obtain rfl := Except.ok.inj (hresult.symm.trans plan_misdeclaredText)
    exact ⟨hprints.exit, hprints.some_output _ rfl, hprints.warnings⟩

/-- The environment in which the form of output is the byte FF, which is no text. -/
def strayEnvironment (name : String) : Option ByteArray :=
  if name = formatVariable then some ⟨#[0xFF]⟩ else none

/-- **An environment that is invalid and overlooked.**  The plan is printed in the default form. -/
theorem exit_status_of_overlooked_environment :
    standardEquipment.readArguments ["till.feature"] = .ok ⟨"till.feature", 1, none, {}⟩ ∧
    InvalidEnvironment strayEnvironment ∧
    ∃ response,
      standardEquipment.respond ["till.feature"] strayEnvironment
        (fun _ => some "Feature: Till\n  Scenario: a\n".toUTF8) = response ∧
      response.exit = 0 ∧ response.output = "Feature: Till\n  2: scenario a\n" := by
  refine ⟨rfl, ?_, _, rfl, by decide +kernel⟩
  have hno : NoText (strayEnvironment formatVariable) :=
    noText_iff.2 ⟨⟨#[0xFF]⟩, rfl, by decide +kernel⟩
  exact Or.inr (Or.inr (invalid_iff.2 (Or.inr hno)))

end FeaturePlan
