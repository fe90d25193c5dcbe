/-
The dialects of Arabic, Hebrew and Persian.
-/

import FeaturePlan.Language.Dialect

set_option relaxedAutoImplicit false
set_option autoImplicit false

namespace FeaturePlan.Dialect

/-- Arabic. -/
def arabic : Dialect where
  code := "ar"
  feature := ["خاصية"]
  background := ["الخلفية"]
  rule := ["Rule"]
  scenario := ["مثال", "سيناريو"]
  outline := ["سيناريو مخطط"]
  examples := ["امثلة"]
  steps := {
    context := ["* ", "بفرض "]
    action := ["* ", "متى ", "عندما "]
    outcome := ["* ", "اذاً ", "ثم "]
    conjunction := ["* ", "و "]
    contrast := ["* ", "لكن "] }

/-- Persian. -/
def persian : Dialect where
  code := "fa"
  feature := ["وِیژگی"]
  background := ["زمینه"]
  rule := ["Rule"]
  scenario := ["مثال", "سناریو"]
  outline := ["الگوی سناریو"]
  examples := ["نمونه ها"]
  steps := {
    context := ["* ", "با فرض "]
    action := ["* ", "هنگامی "]
    outcome := ["* ", "آنگاه "]
    conjunction := ["* ", "و "]
    contrast := ["* ", "اما "] }

/-- Hebrew. -/
def hebrew : Dialect where
  code := "he"
  feature := ["תכונה"]
  background := ["רקע"]
  rule := ["כלל"]
  scenario := ["דוגמא", "תרחיש"]
  outline := ["תבנית תרחיש"]
  examples := ["דוגמאות"]
  steps := {
    context := ["* ", "בהינתן "]
    action := ["* ", "כאשר "]
    outcome := ["* ", "אז ", "אזי "]
    conjunction := ["* ", "וגם "]
    contrast := ["* ", "אבל "] }

/-- The dialects of this module. -/
def semiticFamily : List Dialect :=
  [arabic, persian, hebrew]

end FeaturePlan.Dialect
