/-
The dialects that are known without being told.

Main definitions: `Dialect.catalogue`, the list of all of them, and `Dialect.find?`, which picks
one by its code.
-/

import FeaturePlan.Language.Catalogue.EastAsian
import FeaturePlan.Language.Catalogue.English
import FeaturePlan.Language.Catalogue.European
import FeaturePlan.Language.Catalogue.Germanic
import FeaturePlan.Language.Catalogue.Invented
import FeaturePlan.Language.Catalogue.Romance
import FeaturePlan.Language.Catalogue.Semitic
import FeaturePlan.Language.Catalogue.Slavic
import FeaturePlan.Language.Catalogue.SouthAsian
import FeaturePlan.Language.Catalogue.Turkic

set_option relaxedAutoImplicit false
set_option autoImplicit false

namespace FeaturePlan.Dialect

/-- Every dialect, family after family. -/
def catalogue : List Dialect :=
  englishFamily ++ germanicFamily ++ romanceFamily ++ slavicFamily ++ europeanFamily ++
    turkicFamily ++ southAsianFamily ++ eastAsianFamily ++ semiticFamily ++ inventedFamily

/-- The dialect with the given code. -/
def find? (code : String) : Option Dialect := catalogue.find? (·.code == code)

end FeaturePlan.Dialect
