/-
Spaces, line ends and comments of feature files.

Within a line only **space and tab** separate.  A line ends at a line feed, with a carriage return
before it if there is one.  A comment runs from `#` to the end of its line; it may stand wherever a
line ends, and before every keyword.
-/

import FeaturePlan.Gherkin.Parser
import FeaturePlan.Text.Blank

set_option relaxedAutoImplicit false
set_option autoImplicit false

namespace FeaturePlan.Gherkin

open FeaturePlan.Gherkin.Parser

/-! ### Within a line -/

/-- A character that separates within a line. -/
def isGap (c : Char) : Bool := c = ' ' || c = '\t'

/-- The spaces and tabs at the place, if any. -/
def gap : Parser Unit := do
  let _ ← takeWhile isGap

/-- One space or tab. -/
def gapChar : Parser Unit := orElse (symbol " ") (symbol "\t")

/-- Whether a line ends here. -/
def atLineEnd : List Char → Bool
  | '\r' :: '\n' :: _ => true
  | '\n' :: _ => true
  | _ => false

/-- The end of a line. -/
def lineEnd : Parser Unit := do
  let _ ← optional (symbol "\r")
  fun place =>
    match place.rest with
    | '\n' :: rest => .accept () ⟨rest, place.line + 1⟩
    | _ => .decline

/-- The characters before the end of the line or the first one that fails the test, and what
follows them. -/
def splitLine (test : Char → Bool) : List Char → List Char × List Char
  | [] => ([], [])
  | c :: rest =>
    if atLineEnd (c :: rest) || !test c then ([], c :: rest)
    else
      let (taken, left) := splitLine test rest
      (c :: taken, left)

/-- The characters before the end of the line or the first one that fails the test. -/
def withinLine (test : Char → Bool) : Parser (List Char) := fun place =>
  let (taken, left) := splitLine test place.rest
  .accept taken { place with rest := left }

/-- The rest of the line, which must not be empty. -/
def restOfLine : Parser (List Char) := do
  match ← withinLine fun _ => true with
  | [] => fun _ => .decline
  | taken => return taken

/-! ### Comments and line ends -/

/-- A comment up to the end of its line. -/
def remark : Parser Unit := do
  gap
  symbol "#"
  let _ ← withinLine fun _ => true

/-- The end of a line, perhaps behind a comment. -/
def newLine : Parser Unit := do
  let _ ← optional remark
  lineEnd

/-- A line end, or a space or tab. -/
def spacing : Parser Unit := orElse newLine gapChar

/-- The end of a line with all the empty lines after it, or the end of the text. -/
def lineClose : Parser Unit := orElse (skipSome spacing) atEnd

/-- A comment with the end of its line. -/
def comment : Parser Unit := do
  remark
  lineClose

/-- All the spaces, tabs and line ends at the place. -/
def emptyLines : Parser Unit := skipMany spacing

/-! ### Keywords -/

/-- The first of some words with which the text goes on behind any comments. -/
def keyword (words : List String) : Parser String := do
  skipMany comment
  fun place =>
    match words.find? fun word => Text.beginsWith place.rest word.toList with
    | none => .decline
    | some word => (do symbol word; return word) place

end FeaturePlan.Gherkin
