/-
From the text of a feature file and a selection to generated output.

A **toolchain** is a lexicon with three helpers: a parser, a generator of units and a renderer.  It
parses the text, translates the step keywords if the text declares a language, finds out what the
selection covers, collects the units and renders them.

A helper that fails ends the run, and the failure says which one it was.  A declared language that
is not in the lexicon ends nothing: the steps stay as they are, and a **notice** says so.

Main definitions: `Failure`, `Notice`, `Generation`, `Toolchain`, `Toolchain.run`.
-/

import FeaturePlan.Collection
import FeaturePlan.Language.Header
import FeaturePlan.Translator

set_option relaxedAutoImplicit false
set_option autoImplicit false

namespace FeaturePlan

/-- Why a run came to no result: which helper failed, and with what complaint. -/
inductive Failure (π γ φ : Type) where
  /-- The text was rejected. -/
  | parse (cause : π)
  /-- The unit on a line was refused. -/
  | generate (line : Nat) (cause : γ)
  /-- The units were not rendered. -/
  | format (cause : φ)
deriving Repr, DecidableEq

/-- The text of a failure, given the texts of the complaints. -/
def Failure.message {π γ φ : Type} (parse : π → String) (generate : γ → String)
    (format : φ → String) : Failure π γ φ → String
  | .parse cause => "failed to parse feature: " ++ parse cause
  | .generate line cause =>
    "failed to generate code for line " ++ line.repr ++ ": " ++ generate cause
  | .format cause => "failed to format generated code: " ++ format cause

/-- A condition to bring to the user's attention that does not end a run. -/
inductive Notice where
  /-- The declared language is not in the lexicon, so the steps were not translated. -/
  | unknownLanguage (code : String)
deriving Repr, DecidableEq

/-- The text of a notice. -/
def Notice.message : Notice → String
  | .unknownLanguage code => "cannot find language '" ++ code ++ "'; steps were not translated"

/-- What a run generates. -/
structure Generation where
  /-- The rendered units, or nothing if there were none. -/
  output : Option String
  notices : List Notice
deriving Repr, DecidableEq

/-- The lexicon, the three helpers, and the heuristic for selections. -/
structure Toolchain (υ π γ φ : Type) where
  lexicon : Lexicon
  parse : String → Except π Feature
  generate : Feature → Nat → Except γ υ
  format : List υ → Bool → Except φ String
  heuristic : Heuristic := Heuristic.default

namespace Toolchain

variable {υ π γ φ : Type}

/-- Translates a feature from the declared language.  The notices say if the language is unknown. -/
def translate {ε : Type} (lexicon : Lexicon) (declared : Option String) (feature : Feature) :
    Run υ ε (Feature × List Notice) :=
  match declared with
  | none => .done (feature, [])
  | some code =>
    match Translator.ofLexicon lexicon code with
    | .ok translator => do
      Run.noteAll (translator.events feature)
      return (translator.translate feature, [])
    | .error unknown => do
      Run.note (.languageMissing unknown.code)
      return (feature, [.unknownLanguage unknown.code])

/-- Renders what was collected; without units there is nothing to render. -/
def output (tools : Toolchain υ π γ φ) :
    Option (Collection υ) → Run υ (Failure π γ φ) (Option String)
  | none => .done none
  | some ⟨[], _⟩ => do
    Run.note .nothingCollected
    return none
  | some ⟨units, whole⟩ => do
    let text ← Run.render (fun us w => (tools.format us w).mapError .format) units whole
    return some text

/-- Generates the output for a selection of a text. -/
def run (tools : Toolchain υ π γ φ) (text : String) (selection : Selection) :
    Run υ (Failure π γ φ) Generation := do
  let parsed ← Run.ofExcept ((tools.parse text).mapError .parse)
  let (feature, notices) ← translate tools.lexicon (declaredLanguage? text) parsed
  let scope := tools.heuristic.scope selection feature
  Run.note (.classified selection.first selection.last scope tools.heuristic)
  let collection ←
    collect (fun f line => (tools.generate f line).mapError (.generate line)) feature
      selection scope
  let output ← tools.output collection
  return ⟨output, notices⟩

end Toolchain

end FeaturePlan
