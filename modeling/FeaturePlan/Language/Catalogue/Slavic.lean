/-
The dialects of the Slavic languages.
-/

import FeaturePlan.Language.Dialect

set_option relaxedAutoImplicit false
set_option autoImplicit false

namespace FeaturePlan.Dialect

/-- Bulgarian. -/
def bulgarian : Dialect where
  code := "bg"
  feature := ["Функционалност"]
  background := ["Предистория"]
  rule := ["Правило"]
  scenario := ["Пример", "Сценарий"]
  outline := ["Рамка на сценарий"]
  examples := ["Примери"]
  steps := {
    context := ["* ", "Дадено "]
    action := ["* ", "Когато "]
    outcome := ["* ", "То "]
    conjunction := ["* ", "И "]
    contrast := ["* ", "Но "] }

/-- Bosnian. -/
def bosnian : Dialect where
  code := "bs"
  feature := ["Karakteristika"]
  background := ["Pozadina"]
  rule := ["Rule"]
  scenario := ["Primjer", "Scenariju", "Scenario"]
  outline := ["Scenariju-obris", "Scenario-outline"]
  examples := ["Primjeri"]
  steps := {
    context := ["* ", "Dato "]
    action := ["* ", "Kada "]
    outcome := ["* ", "Zatim "]
    conjunction := ["* ", "I ", "A "]
    contrast := ["* ", "Ali "] }

/-- Czech. -/
def czech : Dialect where
  code := "cs"
  feature := ["Požadavek"]
  background := ["Pozadí", "Kontext"]
  rule := ["Pravidlo"]
  scenario := ["Příklad", "Scénář"]
  outline := ["Náčrt Scénáře", "Osnova scénáře"]
  examples := ["Příklady"]
  steps := {
    context := ["* ", "Pokud ", "Za předpokladu "]
    action := ["* ", "Když "]
    outcome := ["* ", "Pak "]
    conjunction := ["* ", "A také ", "A "]
    contrast := ["* ", "Ale "] }

/-- Croatian. -/
def croatian : Dialect where
  code := "hr"
  feature := ["Osobina", "Mogućnost", "Mogucnost"]
  background := ["Pozadina"]
  rule := ["Rule"]
  scenario := ["Primjer", "Scenarij"]
  outline := ["Skica", "Koncept"]
  examples := ["Primjeri", "Scenariji"]
  steps := {
    context := ["* ", "Zadan ", "Zadani ", "Zadano ", "Ukoliko "]
    action := ["* ", "Kada ", "Kad "]
    outcome := ["* ", "Onda "]
    conjunction := ["* ", "I "]
    contrast := ["* ", "Ali "] }

/-- Macedonian. -/
def macedonian : Dialect where
  code := "mk-Cyrl"
  feature := ["Функционалност", "Бизнис потреба", "Можност"]
  background := ["Контекст", "Содржина"]
  rule := ["Rule"]
  scenario := ["Пример", "Сценарио", "На пример"]
  outline := ["Преглед на сценарија", "Скица", "Концепт"]
  examples := ["Примери", "Сценарија"]
  steps := {
    context := ["* ", "Дадено ", "Дадена "]
    action := ["* ", "Кога "]
    outcome := ["* ", "Тогаш "]
    conjunction := ["* ", "И "]
    contrast := ["* ", "Но "] }

/-- Macedonian in Latin letters. -/
def macedonianLatin : Dialect where
  code := "mk-Latn"
  feature := ["Funkcionalnost", "Biznis potreba", "Mozhnost"]
  background := ["Kontekst", "Sodrzhina"]
  rule := ["Rule"]
  scenario := ["Scenario", "Na primer"]
  outline := ["Pregled na scenarija", "Skica", "Koncept"]
  examples := ["Primeri", "Scenaria"]
  steps := {
    context := ["* ", "Dadeno ", "Dadena "]
    action := ["* ", "Koga "]
    outcome := ["* ", "Togash "]
    conjunction := ["* ", "I "]
    contrast := ["* ", "No "] }

/-- Polish. -/
def polish : Dialect where
  code := "pl"
  feature := ["Właściwość", "Funkcja", "Aspekt", "Potrzeba biznesowa"]
  background := ["Założenia"]
  rule := ["Zasada", "Reguła"]
  scenario := ["Przykład", "Scenariusz"]
  outline := ["Szablon scenariusza"]
  examples := ["Przykłady"]
  steps := {
    context := ["* ", "Zakładając ", "Mając ", "Zakładając, że "]
    action := ["* ", "Jeżeli ", "Jeśli ", "Gdy ", "Kiedy "]
    outcome := ["* ", "Wtedy "]
    conjunction := ["* ", "Oraz ", "I "]
    contrast := ["* ", "Ale "] }

/-- Russian. -/
def russian : Dialect where
  code := "ru"
  feature := ["Функция", "Функциональность", "Функционал", "Свойство"]
  background := ["Предыстория", "Контекст"]
  rule := ["Правило"]
  scenario := ["Пример", "Сценарий"]
  outline := ["Структура сценария", "Шаблон сценария"]
  examples := ["Примеры"]
  steps := {
    context := ["* ", "Допустим ", "Дано ", "Пусть "]
    action := ["* ", "Когда ", "Если "]
    outcome := ["* ", "То ", "Затем ", "Тогда "]
    conjunction := ["* ", "И ", "К тому же ", "Также "]
    contrast := ["* ", "Но ", "А ", "Иначе "] }

/-- Slovak. -/
def slovak : Dialect where
  code := "sk"
  feature := ["Požiadavka", "Funkcia", "Vlastnosť"]
  background := ["Pozadie"]
  rule := ["Rule"]
  scenario := ["Príklad", "Scenár"]
  outline := ["Náčrt Scenáru", "Náčrt Scenára", "Osnova Scenára"]
  examples := ["Príklady"]
  steps := {
    context := ["* ", "Pokiaľ ", "Za predpokladu "]
    action := ["* ", "Keď ", "Ak "]
    outcome := ["* ", "Tak ", "Potom "]
    conjunction := ["* ", "A ", "A tiež ", "A taktiež ", "A zároveň "]
    contrast := ["* ", "Ale "] }

/-- Slovenian. -/
def slovenian : Dialect where
  code := "sl"
  feature := ["Funkcionalnost", "Funkcija", "Možnosti", "Moznosti", "Lastnost", "Značilnost"]
  background := ["Kontekst", "Osnova", "Ozadje"]
  rule := ["Rule"]
  scenario := ["Primer", "Scenarij"]
  outline := ["Struktura scenarija", "Skica", "Koncept", "Oris scenarija", "Osnutek"]
  examples := ["Primeri", "Scenariji"]
  steps := {
    context := ["Dano ", "Podano ", "Zaradi ", "Privzeto "]
    action := ["Ko ", "Ce ", "Če ", "Kadar "]
    outcome := ["Nato ", "Potem ", "Takrat "]
    conjunction := ["In ", "Ter "]
    contrast := ["Toda ", "Ampak ", "Vendar "] }

/-- Serbian. -/
def serbian : Dialect where
  code := "sr-Cyrl"
  feature := ["Функционалност", "Могућност", "Особина"]
  background := ["Контекст", "Основа", "Позадина"]
  rule := ["Правило"]
  scenario := ["Пример", "Сценарио", "Пример"]
  outline := ["Структура сценарија", "Скица", "Концепт"]
  examples := ["Примери", "Сценарији"]
  steps := {
    context := ["* ", "За дато ", "За дате ", "За дати "]
    action := ["* ", "Када ", "Кад "]
    outcome := ["* ", "Онда "]
    conjunction := ["* ", "И "]
    contrast := ["* ", "Али "] }

/-- Serbian in Latin letters. -/
def serbianLatin : Dialect where
  code := "sr-Latn"
  feature := ["Funkcionalnost", "Mogućnost", "Mogucnost", "Osobina"]
  background := ["Kontekst", "Osnova", "Pozadina"]
  rule := ["Pravilo"]
  scenario := ["Scenario", "Primer"]
  outline := ["Struktura scenarija", "Skica", "Koncept"]
  examples := ["Primeri", "Scenariji"]
  steps := {
    context := ["* ", "Za dato ", "Za date ", "Za dati "]
    action := ["* ", "Kada ", "Kad "]
    outcome := ["* ", "Onda "]
    conjunction := ["* ", "I "]
    contrast := ["* ", "Ali "] }

/-- Ukrainian. -/
def ukrainian : Dialect where
  code := "uk"
  feature := ["Функціонал"]
  background := ["Передумова"]
  rule := ["Rule"]
  scenario := ["Приклад", "Сценарій"]
  outline := ["Структура сценарію"]
  examples := ["Приклади"]
  steps := {
    context := ["* ", "Припустимо ", "Припустимо, що ", "Нехай ", "Дано "]
    action := ["* ", "Якщо ", "Коли "]
    outcome := ["* ", "То ", "Тоді "]
    conjunction := ["* ", "І ", "А також ", "Та "]
    contrast := ["* ", "Але "] }

/-- The dialects of this module. -/
def slavicFamily : List Dialect :=
  [bulgarian, bosnian, czech, croatian, macedonian, macedonianLatin, polish, russian, slovak,
   slovenian, serbian, serbianLatin, ukrainian]

end FeaturePlan.Dialect
