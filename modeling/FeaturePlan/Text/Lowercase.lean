/-
The lowercase form of a text.

Lowercasing is almost a map on characters.  **Two letters break the pattern**: `İ` becomes `i`
followed by a combining dot, and `Σ` becomes `ς` at the end of a word and `σ` elsewhere.  The
function `lower` therefore walks through the text with the characters already passed at hand and
looks at the neighbours only when it meets a sigma.

Main definitions:

* `small` is the lowercase form of one character out of context;
* `endsWord` tells whether a sigma between two texts closes a word;
* `lower` is the lowercase form of a text;
* `sameLetters` compares texts without lowercasing them, up to the case of ASCII letters.
-/

import FeaturePlan.Text.CaseMap
import FeaturePlan.Text.WordContext

set_option relaxedAutoImplicit false
set_option autoImplicit false

namespace FeaturePlan.Text

/-! ### One character -/

/-- The lowercase form of a character out of context: itself unless it is a capital letter. -/
def small (c : Char) : List Char :=
  if c.toNat < 0x80 then [c.toLower]
  else if c = 'İ' then ['i', '\u0307']
  else
    match smallOf? c.toNat with
    | some n => [Char.ofNat n]
    | none => [c]

/-! ### Texts -/

/-- Whether a letter closes a word: a letter comes before it and none after it.  The text before is
given backwards, nearest character first. -/
def endsWord (before after : List Char) : Bool := letterAhead before && !letterAhead after

/-- The lowercase form of `cs` where it follows the text whose reverse is `before`. -/
def lowerAfter (before : List Char) : List Char → List Char
  | [] => []
  | c :: rest =>
    (if c = 'Σ' then [if endsWord before rest then 'ς' else 'σ'] else small c)
      ++ lowerAfter (c :: before) rest

/-- The lowercase form of a text. -/
def lower (cs : List Char) : List Char := lowerAfter [] cs

/-- Whether two texts differ at most in the case of ASCII letters.  A letter outside ASCII equals
nothing but itself. -/
def sameLetters (a b : List Char) : Bool := a.map Char.toLower == b.map Char.toLower

end FeaturePlan.Text
