/-
What a feature file needs to know about a language.

A **dialect** is the code that a file declares in its language header, together with the words of
that language for each part of a feature file.  Every word may be spelled in several ways; the
order of the spellings matters to the grammar, which takes the first one that fits.
-/

import FeaturePlan.Language.Vocabulary

set_option relaxedAutoImplicit false
set_option autoImplicit false

namespace FeaturePlan

/-- A language in which feature files are written. -/
structure Dialect where
  /-- The code by which a file declares the language. -/
  code : String
  feature : List String
  background : List String
  rule : List String
  scenario : List String
  outline : List String
  examples : List String
  /-- The keywords of the steps; most of them end in the space before the step's text. -/
  steps : Vocabulary
deriving Repr, DecidableEq

end FeaturePlan
