/-
The language that a file declares.

A file may name its language in a header, which is the **first line** and nothing else: no blank,
mark or other line may come before it.
-/

import FeaturePlan.Text.Line
import FeaturePlan.Text.Search

set_option relaxedAutoImplicit false
set_option autoImplicit false

namespace FeaturePlan

/-- The words with which a language header begins. -/
def languageHeader : String := "# language: "

/-- The text without a carriage return at its end. -/
def dropReturn : List Char → List Char
  | [] => []
  | ['\r'] => []
  | c :: rest => c :: dropReturn rest

/-- The code that the characters of a file declare. -/
def declaredCode? (text : List Char) : Option (List Char) := do
  let first ← (Text.lines text).head?
  let code ← Text.dropFront? languageHeader.toList first
  match dropReturn code with
  | [] => none
  | declared => some declared

/-- The language code that a file declares; an empty code declares nothing. -/
def declaredLanguage? (text : String) : Option String :=
  (declaredCode? text.toList).map String.ofList

end FeaturePlan
