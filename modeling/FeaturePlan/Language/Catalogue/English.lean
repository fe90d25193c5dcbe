/-
The dialects of English and its varieties.
-/

import FeaturePlan.Language.Dialect

set_option relaxedAutoImplicit false
set_option autoImplicit false

namespace FeaturePlan.Dialect

/-- English. -/
def english : Dialect where
  code := "en"
  feature := ["Feature", "Business Need", "Ability"]
  background := ["Background"]
  rule := ["Rule"]
  scenario := ["Example", "Scenario"]
  outline := ["Scenario Outline", "Scenario Template"]
  examples := ["Examples", "Scenarios"]
  steps := {
    context := ["* ", "Given "]
    action := ["* ", "When "]
    outcome := ["* ", "Then "]
    conjunction := ["* ", "And "]
    contrast := ["* ", "But "] }

/-- Australian English. -/
def australian : Dialect where
  code := "en-au"
  feature := ["Pretty much"]
  background := ["First off"]
  rule := ["Rule"]
  scenario := ["Awww, look mate"]
  outline := ["Reckon it's like"]
  examples := ["You'll wanna"]
  steps := {
    context := ["* ", "Y'know "]
    action := ["* ", "It's just unbelievable "]
    outcome := ["* ", "But at the end of the day I reckon "]
    conjunction := ["* ", "Too right "]
    contrast := ["* ", "Yeah nah "] }

/-- LOLCAT English. -/
def lolcat : Dialect where
  code := "en-lol"
  feature := ["OH HAI"]
  background := ["B4"]
  rule := ["Rule"]
  scenario := ["MISHUN"]
  outline := ["MISHUN SRSLY"]
  examples := ["EXAMPLZ"]
  steps := {
    context := ["* ", "I CAN HAZ "]
    action := ["* ", "WEN "]
    outcome := ["* ", "DEN "]
    conjunction := ["* ", "AN "]
    contrast := ["* ", "BUT "] }

/-- Old English. -/
def oldEnglish : Dialect where
  code := "en-old"
  feature := ["Hwaet", "Hwæt"]
  background := ["Aer", "Ær"]
  rule := ["Rule"]
  scenario := ["Swa"]
  outline := ["Swa hwaer swa", "Swa hwær swa"]
  examples := ["Se the", "Se þe", "Se ðe"]
  steps := {
    context := ["* ", "Thurh ", "Þurh ", "Ðurh "]
    action := ["* ", "Tha ", "Þa ", "Ða "]
    outcome := ["* ", "Tha ", "Þa ", "Ða ", "Tha the ", "Þa þe ", "Ða ðe "]
    conjunction := ["* ", "Ond ", "7 "]
    contrast := ["* ", "Ac "] }

/-- The English of pirates. -/
def pirate : Dialect where
  code := "en-pirate"
  feature := ["Ahoy matey!"]
  background := ["Yo-ho-ho"]
  rule := ["Rule"]
  scenario := ["Heave to"]
  outline := ["Shiver me timbers"]
  examples := ["Dead men tell no tales"]
  steps := {
    context := ["* ", "Gangway! "]
    action := ["* ", "Blimey! "]
    outcome := ["* ", "Let go and haul "]
    conjunction := ["* ", "Aye "]
    contrast := ["* ", "Avast! "] }

/-- The English of Liverpool. -/
def scouse : Dialect where
  code := "en-Scouse"
  feature := ["Feature"]
  background := ["Dis is what went down"]
  rule := ["Rule"]
  scenario := ["The thing of it is"]
  outline := ["Wharrimean is"]
  examples := ["Examples"]
  steps := {
    context := ["* ", "Givun ", "Youse know when youse got "]
    action := ["* ", "Wun ", "Youse know like when "]
    outcome := ["* ", "Dun ", "Den youse gotta "]
    conjunction := ["* ", "An "]
    contrast := ["* ", "Buh "] }

/-- The English of Texas. -/
def texan : Dialect where
  code := "en-tx"
  feature := ["This ain’t my first rodeo", "All gussied up"]
  background := ["Lemme tell y'all a story"]
  rule := ["Rule "]
  scenario := ["All hat and no cattle"]
  outline := ["Serious as a snake bite", "Busy as a hound in flea season"]
  examples := ["Now that's a story longer than a cattle drive in July"]
  steps := {
    context := ["Fixin' to ", "All git out "]
    action := ["Quick out of the chute "]
    outcome := ["There’s no tree but bears some fruit "]
    conjunction := ["Come hell or high water "]
    contrast := ["Well now hold on, I'll you what "] }

/-- The dialects of this module. -/
def englishFamily : List Dialect :=
  [english, australian, lolcat, oldEnglish, pirate, scouse, texan]

end FeaturePlan.Dialect
