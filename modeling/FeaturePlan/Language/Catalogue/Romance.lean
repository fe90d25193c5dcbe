/-
The dialects of the Romance languages.
-/

import FeaturePlan.Language.Dialect

set_option relaxedAutoImplicit false
set_option autoImplicit false

namespace FeaturePlan.Dialect

/-- Aragonese. -/
def aragonese : Dialect where
  code := "an"
  feature := ["Caracteristica"]
  background := ["Antecedents"]
  rule := ["Rule"]
  scenario := ["Eixemplo", "Caso"]
  outline := ["Esquema del caso"]
  examples := ["Eixemplos"]
  steps := {
    context := ["* ", "Dau ", "Dada ", "Daus ", "Dadas "]
    action := ["* ", "Cuan "]
    outcome := ["* ", "Alavez ", "Allora ", "Antonces "]
    conjunction := ["* ", "Y ", "E "]
    contrast := ["* ", "Pero "] }

/-- Asturian. -/
def asturian : Dialect where
  code := "ast"
  feature := ["Carauterística"]
  background := ["Antecedentes"]
  rule := ["Rule"]
  scenario := ["Exemplo", "Casu"]
  outline := ["Esbozu del casu"]
  examples := ["Exemplos"]
  steps := {
    context := ["* ", "Dáu ", "Dada ", "Daos ", "Daes "]
    action := ["* ", "Cuando "]
    outcome := ["* ", "Entós "]
    conjunction := ["* ", "Y ", "Ya "]
    contrast := ["* ", "Peru "] }

/-- Catalan. -/
def catalan : Dialect where
  code := "ca"
  feature := ["Característica", "Funcionalitat"]
  background := ["Rerefons", "Antecedents"]
  rule := ["Rule"]
  scenario := ["Exemple", "Escenari"]
  outline := ["Esquema de l'escenari"]
  examples := ["Exemples"]
  steps := {
    context := ["* ", "Donat ", "Donada ", "Atès ", "Atesa "]
    action := ["* ", "Quan "]
    outcome := ["* ", "Aleshores ", "Cal "]
    conjunction := ["* ", "I "]
    contrast := ["* ", "Però "] }

/-- Spanish. -/
def spanish : Dialect where
  code := "es"
  feature := ["Característica", "Necesidad del negocio", "Requisito"]
  background := ["Antecedentes"]
  rule := ["Regla", "Regla de negocio"]
  scenario := ["Ejemplo", "Escenario"]
  outline := ["Esquema del escenario"]
  examples := ["Ejemplos"]
  steps := {
    context := ["* ", "Dado ", "Dada ", "Dados ", "Dadas "]
    action := ["* ", "Cuando "]
    outcome := ["* ", "Entonces "]
    conjunction := ["* ", "Y ", "E "]
    contrast := ["* ", "Pero "] }

/-- French. -/
def french : Dialect where
  code := "fr"
  feature := ["Fonctionnalité"]
  background := ["Contexte"]
  rule := ["Règle"]
  scenario := ["Exemple", "Scénario"]
  outline := ["Plan du scénario", "Plan du Scénario"]
  examples := ["Exemples"]
  steps := {
    context := ["* ", "Soit ", "Sachant que ", "Sachant qu'", "Sachant ", "Etant donné que ",
      "Etant donné qu'", "Etant donné ", "Etant donnée ", "Etant donnés ", "Etant données ",
      "Étant donné que ", "Étant donné qu'", "Étant donné ", "Étant donnée ", "Étant donnés ",
      "Étant données "]
    action := ["* ", "Quand ", "Lorsque ", "Lorsqu'"]
    outcome := ["* ", "Alors ", "Donc "]
    conjunction := ["* ", "Et que ", "Et qu'", "Et "]
    contrast := ["* ", "Mais que ", "Mais qu'", "Mais "] }

/-- Galician. -/
def galician : Dialect where
  code := "gl"
  feature := ["Característica"]
  background := ["Contexto"]
  rule := ["Rule"]
  scenario := ["Exemplo", "Escenario"]
  outline := ["Esbozo do escenario"]
  examples := ["Exemplos"]
  steps := {
    context := ["* ", "Dado ", "Dada ", "Dados ", "Dadas "]
    action := ["* ", "Cando "]
    outcome := ["* ", "Entón ", "Logo "]
    conjunction := ["* ", "E "]
    contrast := ["* ", "Mais ", "Pero "] }

/-- Haitian Creole. -/
def haitianCreole : Dialect where
  code := "ht"
  feature := ["Karakteristik", "Mak", "Fonksyonalite"]
  background := ["Kontèks", "Istorik"]
  rule := ["Rule"]
  scenario := ["Senaryo"]
  outline := ["Plan senaryo", "Plan Senaryo", "Senaryo deskripsyon", "Senaryo Deskripsyon",
    "Dyagram senaryo", "Dyagram Senaryo"]
  examples := ["Egzanp"]
  steps := {
    context := ["* ", "Sipoze ", "Sipoze ke ", "Sipoze Ke "]
    action := ["* ", "Lè ", "Le "]
    outcome := ["* ", "Lè sa a ", "Le sa a "]
    conjunction := ["* ", "Ak ", "Epi ", "E "]
    contrast := ["* ", "Men "] }

/-- Italian. -/
def italian : Dialect where
  code := "it"
  feature := ["Funzionalità", "Esigenza di Business", "Abilità"]
  background := ["Contesto"]
  rule := ["Regola"]
  scenario := ["Esempio", "Scenario"]
  outline := ["Schema dello scenario"]
  examples := ["Esempi"]
  steps := {
    context := ["* ", "Dato ", "Data ", "Dati ", "Date "]
    action := ["* ", "Quando "]
    outcome := ["* ", "Allora "]
    conjunction := ["* ", "E "]
    contrast := ["* ", "Ma "] }

/-- Portuguese. -/
def portuguese : Dialect where
  code := "pt"
  feature := ["Funcionalidade", "Característica", "Caracteristica"]
  background := ["Contexto", "Cenário de Fundo", "Cenario de Fundo", "Fundo"]
  rule := ["Regra"]
  scenario := ["Exemplo", "Cenário", "Cenario"]
  outline := ["Esquema do Cenário", "Esquema do Cenario", "Delineação do Cenário",
    "Delineacao do Cenario"]
  examples := ["Exemplos", "Cenários", "Cenarios"]
  steps := {
    context := ["* ", "Dado ", "Dada ", "Dados ", "Dadas "]
    action := ["* ", "Quando "]
    outcome := ["* ", "Então ", "Entao "]
    conjunction := ["* ", "E "]
    contrast := ["* ", "Mas "] }

/-- Romanian. -/
def romanian : Dialect where
  code := "ro"
  feature := ["Functionalitate", "Funcționalitate", "Funcţionalitate"]
  background := ["Context"]
  rule := ["Rule"]
  scenario := ["Exemplu", "Scenariu"]
  outline := ["Structura scenariu", "Structură scenariu"]
  examples := ["Exemple"]
  steps := {
    context := ["* ", "Date fiind ", "Dat fiind ", "Dată fiind", "Dati fiind ", "Dați fiind ",
      "Daţi fiind "]
    action := ["* ", "Cand ", "Când "]
    outcome := ["* ", "Atunci "]
    conjunction := ["* ", "Si ", "Și ", "Şi "]
    contrast := ["* ", "Dar "] }

/-- The dialects of this module. -/
def romanceFamily : List Dialect :=
  [aragonese, asturian, catalan, spanish, french, galician, haitianCreole, italian, portuguese,
   romanian]

end FeaturePlan.Dialect
