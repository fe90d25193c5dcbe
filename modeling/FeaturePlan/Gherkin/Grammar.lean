/-
The grammar of feature files.

A file has a feature, with an optional background, then scenarios, then rules, which have
backgrounds and scenarios of their own.  The keywords are those of English unless the file begins
with a directive that names another language; **an unknown language rejects the file**, and so does
a table with a row that is shorter than its first one.

Backgrounds, descriptions, tags, texts between quotes and the tables of steps are read and dropped;
the tree keeps the scenarios, their steps, and the tables of their examples.

Main definitions: `document`, the parser of whole files, and `Document.parse`.
-/

import FeaturePlan.Gherkin.Document
import FeaturePlan.Gherkin.Layout
import FeaturePlan.Language.Catalogue

set_option relaxedAutoImplicit false
set_option autoImplicit false

namespace FeaturePlan.Gherkin

open FeaturePlan.Gherkin.Parser

/-! ### Tags and descriptions -/

/-- One tag. -/
def tag : Parser Unit := do
  symbol "@"
  match ← takeWhile fun c => !Text.isBlank c && c ≠ '@' with
  | [] => fun _ => .decline
  | _ => return

/-- The tags at the place, with the empty lines after them. -/
def tags : Parser Unit := do
  let _ ← sepBy tag emptyLines
  gap
  skipMany newLine

/-- A line of free text, which begins neither with a tag nor with one of the words that end the
description. -/
def descriptionLine (stops : List String) : Parser Unit := do
  gap
  unlessAhead (symbol "@")
  unlessAhead (keyword stops)
  gap
  let _ ← restOfLine
  lineClose

/-- Free text up to one of the words that end it. -/
def description (stops : List String) : Parser Unit := do
  let _ ← sepBy (descriptionLine stops) gap
  emptyLines

/-- The words that may follow the description of a scenario or a background. -/
def stepStops (dialect : Dialect) : List String :=
  dialect.scenario ++ dialect.outline ++ dialect.steps.context ++ dialect.steps.action ++
    dialect.steps.outcome ++ dialect.steps.conjunction ++ dialect.steps.contrast

/-! ### Tables and quoted texts -/

/-- One cell of a table with the bar before it. -/
def tableCell : Parser String := do
  symbol "|"
  gap
  unlessAhead (orElse lineEnd atEnd)
  let content ← withinLine (· ≠ '|')
  return String.ofList content

/-- One row of a table. -/
def tableRow : Parser (List String) := do
  let cells ← sepBy tableCell gap
  gap
  symbol "|"
  gap
  lineClose
  return cells

/-- The rows cut to the given width, if none of them is shorter. -/
def cutRows? (width : Nat) (rows : Table) : Option Table :=
  if rows.all fun row => width ≤ row.length then some (rows.map (·.take width)) else none

/-- A table, all of whose rows are cut to the width of the first one. -/
def table : Parser Table := do
  gap
  let rows ← sepBySome tableRow gap
  match cutRows? (rows.headD []).length rows with
  | some even => return even
  | none => refuse

/-- A text between two occurrences of a mark. -/
def quotedBy (mark : String) : Parser Unit := do
  symbol mark
  skipMany do
    unlessAhead (symbol mark)
    orElse newLine (do let _ ← anyChar)
  symbol mark
  lineClose

/-- A text of several lines that belongs to a step. -/
def quotedText : Parser Unit := orElse (quotedBy "\"\"\"") (quotedBy "```")

/-! ### Steps -/

/-- A step that is introduced by one of some words. -/
def stepWith (words : List String) : Parser StepNode := do
  let line ← currentLine
  let word ← keyword words
  gap
  let text ← restOfLine
  gap
  lineClose
  gap
  let _ ← optional quotedText
  let _ ← optional table
  return ⟨word, String.ofList (Text.trimEnd text), line⟩

/-- A step that needs no step before it. -/
def openingStep (words : Vocabulary) : Parser StepNode :=
  firstOf [do skipMany comment; stepWith words.context, stepWith words.action,
    stepWith words.outcome]

/-- Any step. -/
def anyStep (words : Vocabulary) : Parser StepNode :=
  firstOf [openingStep words, stepWith words.conjunction, stepWith words.contrast]

/-- The steps at the place.  The first of them cannot be one that continues another. -/
def steps (words : Vocabulary) : Parser (List StepNode) :=
  orElse
    (do
      let first ← openingStep words
      let others ← many (do gap; anyStep words)
      return first :: others)
    (give [])

/-! ### Scenarios -/

/-- The rest of a header line, behind its colon. -/
def title : Parser String := do
  let text ← optional restOfLine
  return String.ofList (text.getD [])

/-- A block of examples. -/
def examples (dialect : Dialect) : Parser Table := do
  skipMany comment
  gap
  tags
  gap
  let _ ← keyword dialect.examples
  symbol ":"
  gap
  let _ ← title
  lineClose
  let _ ← optional (description (stepStops dialect ++ ["|"]))
  let rows ← optional table
  return rows.getD []

/-- A scenario that is introduced by one of some words. -/
def scenarioWith (dialect : Dialect) (words : List String) : Parser ScenarioNode := do
  skipMany comment
  gap
  tags
  gap
  let line ← currentLine
  let _ ← keyword words
  symbol ":"
  gap
  let name ← title
  gap
  lineClose
  let _ ← optional (description (stepStops dialect))
  let steps ← steps dialect.steps
  let examples ← many (examples dialect)
  return ⟨name, line, steps, examples⟩

/-- A scenario, under either of its names. -/
def scenario (dialect : Dialect) : Parser ScenarioNode :=
  orElse (scenarioWith dialect dialect.scenario) (scenarioWith dialect dialect.outline)

/-- The scenarios at the place. -/
def scenarios (dialect : Dialect) : Parser (List ScenarioNode) := do
  gap
  sepBy (scenario dialect) gap

/-! ### Backgrounds and rules -/

/-- The steps that precede every scenario. -/
def background (dialect : Dialect) : Parser Unit := do
  skipMany comment
  gap
  let _ ← keyword dialect.background
  symbol ":"
  gap
  let _ ← title
  lineClose
  let _ ← optional (description (stepStops dialect))
  let _ ← steps dialect.steps

/-- A rule with its scenarios. -/
def rule (dialect : Dialect) : Parser RuleNode := do
  gap
  tags
  gap
  let _ ← keyword dialect.rule
  symbol ":"
  gap
  let _ ← title
  gap
  lineClose
  let _ ← optional (description (dialect.background ++ dialect.scenario ++ dialect.outline))
  let _ ← optional (background dialect)
  skipMany newLine
  let nodes ← scenarios dialect
  skipMany newLine
  return ⟨nodes⟩

/-- The rules at the place. -/
def rules (dialect : Dialect) : Parser (List RuleNode) := do
  gap
  sepBy (rule dialect) gap

/-! ### Files -/

/-- The dialect that a directive at the place names. -/
def languageDirective : Parser Dialect := do
  skipMany (orElse gapChar lineEnd)
  symbol "#"
  gap
  symbol "language"
  gap
  symbol ":"
  gap
  let code ← restOfLine
  gap
  newLine
  match Dialect.find? (String.ofList code) with
  | some dialect => return dialect
  | none => refuse

/-- A feature whose keywords are those of a dialect. -/
def feature (dialect : Dialect) : Parser Document := do
  skipMany newLine
  tags
  let _ ← keyword dialect.feature
  symbol ":"
  gap
  let name ← title
  gap
  lineClose
  let _ ← optional <|
    description (dialect.background ++ dialect.rule ++ dialect.scenario ++ dialect.outline)
  let _ ← optional (background dialect)
  skipMany newLine
  let outside ← scenarios dialect
  skipMany newLine
  let rules ← rules dialect
  skipMany newLine
  return ⟨name, outside, rules⟩

/-- A whole file. -/
def document : Parser Document := do
  gap
  let dialect ← optional languageDirective
  let tree ← feature (dialect.getD Dialect.english)
  atEnd
  return tree

end FeaturePlan.Gherkin

namespace FeaturePlan

/-- The complaint about a text that is no feature file. -/
inductive SyntaxError where
  | notAFeature
deriving Repr, DecidableEq

/-- The text of the complaint. -/
def SyntaxError.message : SyntaxError → String
  | .notAFeature => "the text is not a feature file"

/-- The syntax tree of a text whose last line has an end. -/
def Gherkin.Document.parse (text : List Char) : Except SyntaxError Gherkin.Document :=
  match Gherkin.document ⟨text, 1⟩ with
  | .accept tree _ => .ok tree
  | _ => .error .notAFeature

/-- The feature of a text. -/
def Feature.read (text : String) : Except SyntaxError Feature :=
  Feature.readWith Gherkin.Document.parse text

end FeaturePlan
