/-
The dialects of invented languages and notations.
-/

import FeaturePlan.Language.Dialect

set_option relaxedAutoImplicit false
set_option autoImplicit false

namespace FeaturePlan.Dialect

/-- Emoji. -/
def emoji : Dialect where
  code := "em"
  feature := ["📚"]
  background := ["💤"]
  rule := ["Rule"]
  scenario := ["🥒", "📕"]
  outline := ["📖"]
  examples := ["📓"]
  steps := {
    context := ["* ", "😐"]
    action := ["* ", "🎬"]
    outcome := ["* ", "🙏"]
    conjunction := ["* ", "😂"]
    contrast := ["* ", "😔"] }

/-- Esperanto. -/
def esperanto : Dialect where
  code := "eo"
  feature := ["Trajto"]
  background := ["Fono"]
  rule := ["Rule"]
  scenario := ["Ekzemplo", "Scenaro", "Kazo"]
  outline := ["Konturo de la scenaro", "Skizo", "Kazo-skizo"]
  examples := ["Ekzemploj"]
  steps := {
    context := ["* ", "Donitaĵo ", "Komence "]
    action := ["* ", "Se "]
    outcome := ["* ", "Do "]
    conjunction := ["* ", "Kaj "]
    contrast := ["* ", "Sed "] }

/-- Klingon. -/
def klingon : Dialect where
  code := "tlh"
  feature := ["Qap", "Qu'meH 'ut", "perbogh", "poQbogh malja'", "laH"]
  background := ["mo'"]
  rule := ["Rule"]
  scenario := ["lut"]
  outline := ["lut chovnatlh"]
  examples := ["ghantoH", "lutmey"]
  steps := {
    context := ["* ", "ghu' noblu' ", "DaH ghu' bejlu' "]
    action := ["* ", "qaSDI' "]
    outcome := ["* ", "vaj "]
    conjunction := ["* ", "'ej ", "latlh "]
    contrast := ["* ", "'ach ", "'a "] }

/-- The dialect of formal proof, in which scenarios are demonstrations. -/
def formal : Dialect where
  code := "formal"
  feature := ["Section"]
  background := ["Context"]
  rule := ["Rule"]
  scenario := ["Proof", "Evidence"]
  outline := ["Demonstration"]
  examples := ["Examples"]
  steps := {
    context := ["Given"]
    action := ["When"]
    outcome := ["Then"]
    conjunction := ["*", "And"]
    contrast := ["But"] }

/-- The dialects of this module. -/
def inventedFamily : List Dialect :=
  [emoji, esperanto, klingon, formal]

end FeaturePlan.Dialect
