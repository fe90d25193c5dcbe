/-
The dialects of the languages of East and South-East Asia.
-/

import FeaturePlan.Language.Dialect

set_option relaxedAutoImplicit false
set_option autoImplicit false

namespace FeaturePlan.Dialect

/-- Malay. -/
def malay : Dialect where
  code := "bm"
  feature := ["Fungsi"]
  background := ["Latar Belakang"]
  rule := ["Rule"]
  scenario := ["Senario", "Situasi", "Keadaan"]
  outline := ["Kerangka Senario", "Kerangka Situasi", "Kerangka Keadaan", "Garis Panduan Senario"]
  examples := ["Contoh"]
  steps := {
    context := ["* ", "Diberi ", "Bagi "]
    action := ["* ", "Apabila "]
    outcome := ["* ", "Maka ", "Kemudian "]
    conjunction := ["* ", "Dan "]
    contrast := ["* ", "Tetapi ", "Tapi "] }

/-- Indonesian. -/
def indonesian : Dialect where
  code := "id"
  feature := ["Fitur"]
  background := ["Dasar", "Latar Belakang"]
  rule := ["Rule", "Aturan"]
  scenario := ["Skenario"]
  outline := ["Skenario konsep", "Garis-Besar Skenario"]
  examples := ["Contoh", "Misal"]
  steps := {
    context := ["* ", "Dengan ", "Diketahui ", "Diasumsikan ", "Bila ", "Jika "]
    action := ["* ", "Ketika "]
    outcome := ["* ", "Maka ", "Kemudian "]
    conjunction := ["* ", "Dan "]
    contrast := ["* ", "Tapi ", "Tetapi "] }

/-- Japanese. -/
def japanese : Dialect where
  code := "ja"
  feature := ["フィーチャ", "機能"]
  background := ["背景"]
  rule := ["Rule"]
  scenario := ["シナリオ"]
  outline := ["シナリオアウトライン", "シナリオテンプレート", "テンプレ", "シナリオテンプレ"]
  examples := ["例", "サンプル"]
  steps := {
    context := ["* ", "前提"]
    action := ["* ", "もし"]
    outcome := ["* ", "ならば"]
    conjunction := ["* ", "かつ"]
    contrast := ["* ", "しかし", "但し", "ただし"] }

/-- Javanese. -/
def javanese : Dialect where
  code := "jv"
  feature := ["Fitur"]
  background := ["Dasar"]
  rule := ["Rule"]
  scenario := ["Skenario"]
  outline := ["Konsep skenario"]
  examples := ["Conto", "Contone"]
  steps := {
    context := ["* ", "Nalika ", "Nalikaning "]
    action := ["* ", "Manawa ", "Menawa "]
    outcome := ["* ", "Njuk ", "Banjur "]
    conjunction := ["* ", "Lan "]
    contrast := ["* ", "Tapi ", "Nanging ", "Ananging "] }

/-- Korean. -/
def korean : Dialect where
  code := "ko"
  feature := ["기능"]
  background := ["배경"]
  rule := ["Rule"]
  scenario := ["시나리오"]
  outline := ["시나리오 개요"]
  examples := ["예"]
  steps := {
    context := ["* ", "조건", "먼저"]
    action := ["* ", "만일", "만약"]
    outcome := ["* ", "그러면"]
    conjunction := ["* ", "그리고"]
    contrast := ["* ", "하지만", "단"] }

/-- Thai. -/
def thai : Dialect where
  code := "th"
  feature := ["โครงหลัก", "ความต้องการทางธุรกิจ", "ความสามารถ"]
  background := ["แนวคิด"]
  rule := ["Rule"]
  scenario := ["เหตุการณ์"]
  outline := ["สรุปเหตุการณ์", "โครงสร้างของเหตุการณ์"]
  examples := ["ชุดของตัวอย่าง", "ชุดของเหตุการณ์"]
  steps := {
    context := ["* ", "กำหนดให้ "]
    action := ["* ", "เมื่อ "]
    outcome := ["* ", "ดังนั้น "]
    conjunction := ["* ", "และ "]
    contrast := ["* ", "แต่ "] }

/-- Vietnamese. -/
def vietnamese : Dialect where
  code := "vi"
  feature := ["Tính năng"]
  background := ["Bối cảnh"]
  rule := ["Rule"]
  scenario := ["Tình huống", "Kịch bản"]
  outline := ["Khung tình huống", "Khung kịch bản"]
  examples := ["Dữ liệu"]
  steps := {
    context := ["* ", "Biết ", "Cho "]
    action := ["* ", "Khi "]
    outcome := ["* ", "Thì "]
    conjunction := ["* ", "Và "]
    contrast := ["* ", "Nhưng "] }

/-- Chinese in simplified characters. -/
def chineseSimplified : Dialect where
  code := "zh-CN"
  feature := ["功能"]
  background := ["背景"]
  rule := ["Rule"]
  scenario := ["场景", "剧本"]
  outline := ["场景大纲", "剧本大纲"]
  examples := ["例子"]
  steps := {
    context := ["* ", "假如", "假设", "假定"]
    action := ["* ", "当"]
    outcome := ["* ", "那么"]
    conjunction := ["* ", "而且", "并且", "同时"]
    contrast := ["* ", "但是"] }

/-- Chinese in traditional characters. -/
def chineseTraditional : Dialect where
  code := "zh-TW"
  feature := ["功能"]
  background := ["背景"]
  rule := ["Rule"]
  scenario := ["場景", "劇本"]
  outline := ["場景大綱", "劇本大綱"]
  examples := ["例子"]
  steps := {
    context := ["* ", "假如", "假設", "假定"]
    action := ["* ", "當"]
    outcome := ["* ", "那麼"]
    conjunction := ["* ", "而且", "並且", "同時"]
    contrast := ["* ", "但是"] }

/-- The dialects of this module. -/
def eastAsianFamily : List Dialect :=
  [malay, indonesian, japanese, javanese, korean, thai, vietnamese, chineseSimplified,
   chineseTraditional]

end FeaturePlan.Dialect
