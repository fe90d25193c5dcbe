/-
The dialects of other languages of Europe and the Caucasus.
-/

import FeaturePlan.Language.Dialect

set_option relaxedAutoImplicit false
set_option autoImplicit false

namespace FeaturePlan.Dialect

/-- Armenian. -/
def armenian : Dialect where
  code := "am"
  feature := ["Ֆունկցիոնալություն", "Հատկություն"]
  background := ["Կոնտեքստ"]
  rule := ["Rule"]
  scenario := ["Օրինակ", "Սցենար"]
  outline := ["Սցենարի կառուցվացքը"]
  examples := ["Օրինակներ"]
  steps := {
    context := ["* ", "Դիցուք "]
    action := ["* ", "Եթե ", "Երբ "]
    outcome := ["* ", "Ապա "]
    conjunction := ["* ", "Եվ "]
    contrast := ["* ", "Բայց "] }

/-- Welsh. -/
def welsh : Dialect where
  code := "cy-GB"
  feature := ["Arwedd"]
  background := ["Cefndir"]
  rule := ["Rule"]
  scenario := ["Enghraifft", "Scenario"]
  outline := ["Scenario Amlinellol"]
  examples := ["Enghreifftiau"]
  steps := {
    context := ["* ", "Anrhegedig a "]
    action := ["* ", "Pryd "]
    outcome := ["* ", "Yna "]
    conjunction := ["* ", "A "]
    contrast := ["* ", "Ond "] }

/-- Greek. -/
def greek : Dialect where
  code := "el"
  feature := ["Δυνατότητα", "Λειτουργία"]
  background := ["Υπόβαθρο"]
  rule := ["Rule"]
  scenario := ["Παράδειγμα", "Σενάριο"]
  outline := ["Περιγραφή Σεναρίου", "Περίγραμμα Σεναρίου"]
  examples := ["Παραδείγματα", "Σενάρια"]
  steps := {
    context := ["* ", "Δεδομένου "]
    action := ["* ", "Όταν "]
    outcome := ["* ", "Τότε "]
    conjunction := ["* ", "Και "]
    contrast := ["* ", "Αλλά "] }

/-- Estonian. -/
def estonian : Dialect where
  code := "et"
  feature := ["Omadus"]
  background := ["Taust"]
  rule := ["Reegel"]
  scenario := ["Juhtum", "Stsenaarium"]
  outline := ["Raamjuhtum", "Raamstsenaarium"]
  examples := ["Juhtumid"]
  steps := {
    context := ["* ", "Eeldades "]
    action := ["* ", "Kui "]
    outcome := ["* ", "Siis "]
    conjunction := ["* ", "Ja "]
    contrast := ["* ", "Kuid "] }

/-- Finnish. -/
def finnish : Dialect where
  code := "fi"
  feature := ["Ominaisuus"]
  background := ["Tausta"]
  rule := ["Rule"]
  scenario := ["Tapaus"]
  outline := ["Tapausaihio"]
  examples := ["Tapaukset"]
  steps := {
    context := ["* ", "Oletetaan "]
    action := ["* ", "Kun "]
    outcome := ["* ", "Niin "]
    conjunction := ["* ", "Ja "]
    contrast := ["* ", "Mutta "] }

/-- Irish. -/
def irish : Dialect where
  code := "ga"
  feature := ["Gné"]
  background := ["Cúlra"]
  rule := ["Rule"]
  scenario := ["Sampla", "Cás"]
  outline := ["Cás Achomair"]
  examples := ["Samplaí"]
  steps := {
    context := ["* ", "Cuir i gcás go", "Cuir i gcás nach", "Cuir i gcás gur", "Cuir i gcás nár"]
    action := ["* ", "Nuair a", "Nuair nach", "Nuair ba", "Nuair nár"]
    outcome := ["* ", "Ansin"]
    conjunction := ["* ", "Agus"]
    contrast := ["* ", "Ach"] }

/-- Hungarian. -/
def hungarian : Dialect where
  code := "hu"
  feature := ["Jellemző"]
  background := ["Háttér"]
  rule := ["Szabály"]
  scenario := ["Példa", "Forgatókönyv"]
  outline := ["Forgatókönyv vázlat"]
  examples := ["Példák"]
  steps := {
    context := ["* ", "Amennyiben ", "Adott "]
    action := ["* ", "Majd ", "Ha ", "Amikor "]
    outcome := ["* ", "Akkor "]
    conjunction := ["* ", "És "]
    contrast := ["* ", "De "] }

/-- Georgian. -/
def georgian : Dialect where
  code := "ka"
  feature := ["თვისება"]
  background := ["კონტექსტი"]
  rule := ["Rule"]
  scenario := ["მაგალითად", "სცენარის"]
  outline := ["სცენარის ნიმუში"]
  examples := ["მაგალითები"]
  steps := {
    context := ["* ", "მოცემული"]
    action := ["* ", "როდესაც"]
    outcome := ["* ", "მაშინ"]
    conjunction := ["* ", "და"]
    contrast := ["* ", "მაგ­რამ"] }

/-- Lithuanian. -/
def lithuanian : Dialect where
  code := "lt"
  feature := ["Savybė"]
  background := ["Kontekstas"]
  rule := ["Rule"]
  scenario := ["Pavyzdys", "Scenarijus"]
  outline := ["Scenarijaus šablonas"]
  examples := ["Pavyzdžiai", "Scenarijai", "Variantai"]
  steps := {
    context := ["* ", "Duota "]
    action := ["* ", "Kai "]
    outcome := ["* ", "Tada "]
    conjunction := ["* ", "Ir "]
    contrast := ["* ", "Bet "] }

/-- Latvian. -/
def latvian : Dialect where
  code := "lv"
  feature := ["Funkcionalitāte", "Fīča"]
  background := ["Konteksts", "Situācija"]
  rule := ["Rule"]
  scenario := ["Piemērs", "Scenārijs"]
  outline := ["Scenārijs pēc parauga"]
  examples := ["Piemēri", "Paraugs"]
  steps := {
    context := ["* ", "Kad "]
    action := ["* ", "Ja "]
    outcome := ["* ", "Tad "]
    conjunction := ["* ", "Un "]
    contrast := ["* ", "Bet "] }

/-- The dialects of this module. -/
def europeanFamily : List Dialect :=
  [armenian, welsh, greek, estonian, finnish, irish, hungarian, georgian, lithuanian, latvian]

end FeaturePlan.Dialect
