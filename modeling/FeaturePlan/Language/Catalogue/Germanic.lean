/-
The dialects of the Germanic languages other than English.
-/

import FeaturePlan.Language.Dialect

set_option relaxedAutoImplicit false
set_option autoImplicit false

namespace FeaturePlan.Dialect

/-- Afrikaans. -/
def afrikaans : Dialect where
  code := "af"
  feature := ["Funksie", "Besigheid Behoefte", "Vermoë"]
  background := ["Agtergrond"]
  rule := ["Regel"]
  scenario := ["Voorbeeld", "Situasie"]
  outline := ["Situasie Uiteensetting"]
  examples := ["Voorbeelde"]
  steps := {
    context := ["* ", "Gegewe "]
    action := ["* ", "Wanneer "]
    outcome := ["* ", "Dan "]
    conjunction := ["* ", "En "]
    contrast := ["* ", "Maar "] }

/-- Danish. -/
def danish : Dialect where
  code := "da"
  feature := ["Egenskab"]
  background := ["Baggrund"]
  rule := ["Rule"]
  scenario := ["Eksempel", "Scenarie"]
  outline := ["Abstrakt Scenario"]
  examples := ["Eksempler"]
  steps := {
    context := ["* ", "Givet "]
    action := ["* ", "Når "]
    outcome := ["* ", "Så "]
    conjunction := ["* ", "Og "]
    contrast := ["* ", "Men "] }

/-- German. -/
def german : Dialect where
  code := "de"
  feature := ["Funktionalität", "Funktion"]
  background := ["Grundlage", "Hintergrund", "Voraussetzungen", "Vorbedingungen"]
  rule := ["Rule", "Regel"]
  scenario := ["Beispiel", "Szenario"]
  outline := ["Szenariogrundriss", "Szenarien"]
  examples := ["Beispiele"]
  steps := {
    context := ["* ", "Angenommen ", "Gegeben sei ", "Gegeben seien "]
    action := ["* ", "Wenn "]
    outcome := ["* ", "Dann "]
    conjunction := ["* ", "Und "]
    contrast := ["* ", "Aber "] }

/-- Icelandic. -/
def icelandic : Dialect where
  code := "is"
  feature := ["Eiginleiki"]
  background := ["Bakgrunnur"]
  rule := ["Rule"]
  scenario := ["Atburðarás"]
  outline := ["Lýsing Atburðarásar", "Lýsing Dæma"]
  examples := ["Dæmi", "Atburðarásir"]
  steps := {
    context := ["* ", "Ef "]
    action := ["* ", "Þegar "]
    outcome := ["* ", "Þá "]
    conjunction := ["* ", "Og "]
    contrast := ["* ", "En "] }

/-- Luxemburgish. -/
def luxemburgish : Dialect where
  code := "lu"
  feature := ["Funktionalitéit"]
  background := ["Hannergrond"]
  rule := ["Rule"]
  scenario := ["Beispill", "Szenario"]
  outline := ["Plang vum Szenario"]
  examples := ["Beispiller"]
  steps := {
    context := ["* ", "ugeholl "]
    action := ["* ", "wann "]
    outcome := ["* ", "dann "]
    conjunction := ["* ", "an ", "a "]
    contrast := ["* ", "awer ", "mä "] }

/-- Dutch. -/
def dutch : Dialect where
  code := "nl"
  feature := ["Functionaliteit"]
  background := ["Achtergrond"]
  rule := ["Rule"]
  scenario := ["Voorbeeld", "Scenario"]
  outline := ["Abstract Scenario"]
  examples := ["Voorbeelden"]
  steps := {
    context := ["* ", "Gegeven ", "Stel "]
    action := ["* ", "Als ", "Wanneer "]
    outcome := ["* ", "Dan "]
    conjunction := ["* ", "En "]
    contrast := ["* ", "Maar "] }

/-- Norwegian. -/
def norwegian : Dialect where
  code := "no"
  feature := ["Egenskap"]
  background := ["Bakgrunn"]
  rule := ["Regel"]
  scenario := ["Eksempel", "Scenario"]
  outline := ["Scenariomal", "Abstrakt Scenario"]
  examples := ["Eksempler"]
  steps := {
    context := ["* ", "Gitt "]
    action := ["* ", "Når "]
    outcome := ["* ", "Så "]
    conjunction := ["* ", "Og "]
    contrast := ["* ", "Men "] }

/-- Swedish. -/
def swedish : Dialect where
  code := "sv"
  feature := ["Egenskap"]
  background := ["Bakgrund"]
  rule := ["Regel"]
  scenario := ["Scenario"]
  outline := ["Abstrakt Scenario", "Scenariomall"]
  examples := ["Exempel"]
  steps := {
    context := ["* ", "Givet "]
    action := ["* ", "När "]
    outcome := ["* ", "Så "]
    conjunction := ["* ", "Och "]
    contrast := ["* ", "Men "] }

/-- The dialects of this module. -/
def germanicFamily : List Dialect :=
  [afrikaans, danish, german, icelandic, luxemburgish, dutch, norwegian, swedish]

end FeaturePlan.Dialect
