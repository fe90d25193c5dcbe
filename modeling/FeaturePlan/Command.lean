/-
The command, whatever it is built on.

The command prints the plan for some lines of a feature file.  There are three things that it leaves
to others: reading the arguments, finding the syntax tree of a text, and printing a JSON value.  It
comes with an **equipment** for these, and what it does is a function of the equipment, the
arguments, the environment and the contents of the file.

Its **exit status** tells what went wrong first: 2 for an invalid environment variable, 1 for a file
that cannot be read or is no feature file, 0 if there is a plan or nothing to plan.  The file is not
looked at before the environment is in order, nor the environment before the arguments are.

Main definitions:

* `Response`, what the command does, and `PlanRequest`, what it is asked for;
* `Equipment`, what it is built on;
* `Equipment.prepare`, which looks at arguments and environment, and `Equipment.answer`, which looks
  at the file;
* `Equipment.respond`, the whole command.
-/

import FeaturePlan.Plan

set_option relaxedAutoImplicit false
set_option autoImplicit false

namespace FeaturePlan

/-- What the command does. -/
structure Response where
  exit : Nat
  /-- What is written to the standard output. -/
  output : String := ""
  /-- The lines for the standard error that tell of conditions to attend to. -/
  warnings : List String := []
  /-- The lines for the standard error that tell what happened. -/
  log : List String := []
deriving Repr, DecidableEq

/-- A plan that is asked for: that of the lines of a file from `first` on, to `last` or to the end.
Files have names in `δ`. -/
structure PlanRequest (δ : Type) where
  file : δ
  first : Nat
  last : Option Nat
  overrides : Overrides
deriving Repr, DecidableEq

/-- What the command is built on, for arguments in `ι` and files with names in `δ`. -/
structure Equipment (ι δ π φ : Type) where
  /-- The plan that the arguments ask for.  If they ask for none, there is a response at once. -/
  readArguments : ι → Except Response (PlanRequest δ)
  /-- The syntax tree of a text whose last line has an end. -/
  grammar : List Char → Except π Gherkin.Document
  printJson : Json → Except φ String
  /-- The text of a complaint about a text that is no feature file. -/
  syntaxMessage : π → String
  /-- The text of a complaint about a value that is not printed. -/
  printMessage : φ → String

/-! ### Lines for the standard error -/

/-- A line that tells of a notice. -/
def Notice.warning (notice : Notice) : String := "warning: " ++ notice.message

/-- A line that tells of an event. -/
def Event.logLine (event : Event) : String :=
  event.level.name ++ " " ++ event.message ++
    String.join (event.fields.map fun field => " " ++ field.1 ++ "=" ++ field.2)

/-- The lines that tell of the events of at least the given level. -/
def logLines (level : Level) (events : List Event) : List String :=
  (events.filter fun event => level.rank ≤ event.level.rank).map Event.logLine

/-! ### The command -/

/-- What is known before the file is looked at. -/
inductive Prospect (δ : Type) where
  /-- The file does not matter: this is the response. -/
  | settled (response : Response)
  /-- The file decides about the response to this request. -/
  | pending (request : PlanRequest δ) (settings : Settings)
deriving Repr, DecidableEq

namespace Equipment

variable {ι δ π φ : Type} (equipment : Equipment ι δ π φ)

/-- What arguments and environment say about the response. -/
def prepare (arguments : ι) (environment : String → Option ByteArray) : Prospect δ :=
  match equipment.readArguments arguments with
  | .error response => .settled response
  | .ok request =>
    match Settings.load environment with
    | .error e => .settled { exit := 2, log := ["error " ++ e.message] }
    | .ok settings => .pending request (settings.override request.overrides)

/-- Plans a selection of a text. -/
def plan (source : String) (selection : Selection) (settings : Settings) :
    Run PlanUnit (Failure π Empty φ) Generation :=
  planWith (Feature.readWith equipment.grammar) equipment.printJson source selection settings

/-- The text of a failed plan. -/
def failureMessage : Failure π Empty φ → String :=
  Failure.message equipment.syntaxMessage nofun equipment.printMessage

/-- The response to a request, given the text of the file. -/
def answerText (request : PlanRequest δ) (settings : Settings) (source : String) : Response :=
  let run := equipment.plan source (Selection.ofLines source request.first request.last) settings
  let log := logLines settings.level run.events
  match run.result with
  | .error failure =>
    { exit := 1, log := log ++ ["error generation failed: " ++ equipment.failureMessage failure] }
  | .ok generation =>
    { exit := 0
      output := match generation.output with
        | some text => text ++ "\n"
        | none => ""
      warnings := generation.notices.map Notice.warning
      log := log }

/-- The response to a request, given the bytes of the file if it can be read. -/
def answer (request : PlanRequest δ) (settings : Settings) (contents : Option ByteArray) :
    Response :=
  match contents with
  | none => { exit := 1, log := ["error generation failed: the file cannot be read"] }
  | some bytes =>
    match String.fromUTF8? bytes with
    | none => { exit := 1, log := ["error generation failed: the file is not a text"] }
    | some source => equipment.answerText request settings source

/-- The whole command, where `contents` gives the bytes of the files that can be read. -/
def respond (arguments : ι) (environment : String → Option ByteArray)
    (contents : δ → Option ByteArray) : Response :=
  match equipment.prepare arguments environment with
  | .settled response => response
  | .pending request settings => equipment.answer request settings (contents request.file)

end Equipment

end FeaturePlan
