/-
The dialects of the Turkic languages and Mongolian.
-/

import FeaturePlan.Language.Dialect

set_option relaxedAutoImplicit false
set_option autoImplicit false

namespace FeaturePlan.Dialect

/-- Azerbaijani. -/
def azerbaijani : Dialect where
  code := "az"
  feature := ["Özəllik"]
  background := ["Keçmiş", "Kontekst"]
  rule := ["Rule"]
  scenario := ["Nümunə", "Ssenari"]
  outline := ["Ssenarinin strukturu"]
  examples := ["Nümunələr"]
  steps := {
    context := ["* ", "Tutaq ki ", "Verilir "]
    action := ["* ", "Əgər ", "Nə vaxt ki "]
    outcome := ["* ", "O halda "]
    conjunction := ["* ", "Və ", "Həm "]
    contrast := ["* ", "Amma ", "Ancaq "] }

/-- Mongolian. -/
def mongolian : Dialect where
  code := "mn"
  feature := ["Функц", "Функционал"]
  background := ["Агуулга"]
  rule := ["Rule"]
  scenario := ["Сценар"]
  outline := ["Сценарын төлөвлөгөө"]
  examples := ["Тухайлбал"]
  steps := {
    context := ["* ", "Өгөгдсөн нь ", "Анх "]
    action := ["* ", "Хэрэв "]
    outcome := ["* ", "Тэгэхэд ", "Үүний дараа "]
    conjunction := ["* ", "Мөн ", "Тэгээд "]
    contrast := ["* ", "Гэхдээ ", "Харин "] }

/-- Turkish. -/
def turkish : Dialect where
  code := "tr"
  feature := ["Özellik"]
  background := ["Geçmiş"]
  rule := ["Kural"]
  scenario := ["Örnek", "Senaryo"]
  outline := ["Senaryo taslağı"]
  examples := ["Örnekler"]
  steps := {
    context := ["* ", "Diyelim ki "]
    action := ["* ", "Eğer ki "]
    outcome := ["* ", "O zaman "]
    conjunction := ["* ", "Ve "]
    contrast := ["* ", "Fakat ", "Ama "] }

/-- Tatar. -/
def tatar : Dialect where
  code := "tt"
  feature := ["Мөмкинлек", "Үзенчәлеклелек"]
  background := ["Кереш"]
  rule := ["Rule"]
  scenario := ["Сценарий"]
  outline := ["Сценарийның төзелеше"]
  examples := ["Үрнәкләр", "Мисаллар"]
  steps := {
    context := ["* ", "Әйтик "]
    action := ["* ", "Әгәр "]
    outcome := ["* ", "Нәтиҗәдә "]
    conjunction := ["* ", "Һәм ", "Вә "]
    contrast := ["* ", "Ләкин ", "Әмма "] }

/-- Uzbek. -/
def uzbek : Dialect where
  code := "uz"
  feature := ["Функционал"]
  background := ["Тарих"]
  rule := ["Rule"]
  scenario := ["Сценарий"]
  outline := ["Сценарий структураси"]
  examples := ["Мисоллар"]
  steps := {
    context := ["* ", "Агар "]
    action := ["* ", "Агар "]
    outcome := ["* ", "Унда "]
    conjunction := ["* ", "Ва "]
    contrast := ["* ", "Лекин ", "Бирок ", "Аммо "] }

/-- The dialects of this module. -/
def turkicFamily : List Dialect :=
  [azerbaijani, mongolian, turkish, tatar, uzbek]

end FeaturePlan.Dialect
