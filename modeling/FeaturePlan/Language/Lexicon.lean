/-
The lexicon: which vocabulary each language code stands for.

The lexicon is a map sorted by code.  Entering a code again **replaces** its vocabulary; the codes
are listed in the order of their code points, whatever the order in which they were entered.

Main definitions: `Lexicon`, its operations `insert`, `get?`, `contains`, `codes`, and
`Lexicon.builtin`, the lexicon of the catalogue.
-/

import FeaturePlan.Language.Catalogue
import Std.Data.TreeMap.Basic

set_option relaxedAutoImplicit false
set_option autoImplicit false

namespace FeaturePlan

/-- The vocabulary of each known language. -/
structure Lexicon where
  entries : Std.TreeMap String Vocabulary

namespace Lexicon

/-- The lexicon without any language. -/
def empty : Lexicon := ⟨∅⟩

/-- The lexicon in which `code` stands for `vocabulary`, whatever it stood for before. -/
def insert (lexicon : Lexicon) (code : String) (vocabulary : Vocabulary) : Lexicon :=
  ⟨lexicon.entries.insert code vocabulary⟩

/-- The vocabulary that `code` stands for. -/
def get? (lexicon : Lexicon) (code : String) : Option Vocabulary := lexicon.entries[code]?

/-- Whether the lexicon knows `code`. -/
def contains (lexicon : Lexicon) (code : String) : Bool := lexicon.entries.contains code

/-- The known codes in ascending order.  The map keeps its keys in their order, and that of texts is
the order of their code points, which is also that of their bytes.  So the list of the keys is
sorted as it is, see `Lexicon.pairwise_codes`. -/
def codes (lexicon : Lexicon) : List String := lexicon.entries.keys

/-- The lexicon with the languages of some dialects entered one after the other. -/
def insertDialects (lexicon : Lexicon) (dialects : List Dialect) : Lexicon :=
  dialects.foldl (fun known dialect => known.insert dialect.code dialect.steps) lexicon

/-- The lexicon of the catalogue. -/
def builtin : Lexicon := empty.insertDialects Dialect.catalogue

end Lexicon

end FeaturePlan
