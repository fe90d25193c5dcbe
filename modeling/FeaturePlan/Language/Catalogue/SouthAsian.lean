/-
The dialects of the languages of South Asia.
-/

import FeaturePlan.Language.Dialect

set_option relaxedAutoImplicit false
set_option autoImplicit false

namespace FeaturePlan.Dialect

/-- Gujarati. -/
def gujarati : Dialect where
  code := "gj"
  feature := ["લક્ષણ", "વ્યાપાર જરૂર", "ક્ષમતા"]
  background := ["બેકગ્રાઉન્ડ"]
  rule := ["Rule"]
  scenario := ["ઉદાહરણ", "સ્થિતિ"]
  outline := ["પરિદ્દશ્ય રૂપરેખા", "પરિદ્દશ્ય ઢાંચો"]
  examples := ["ઉદાહરણો"]
  steps := {
    context := ["* ", "આપેલ છે "]
    action := ["* ", "ક્યારે "]
    outcome := ["* ", "પછી "]
    conjunction := ["* ", "અને "]
    contrast := ["* ", "પણ "] }

/-- Hindi. -/
def hindi : Dialect where
  code := "hi"
  feature := ["रूप लेख"]
  background := ["पृष्ठभूमि"]
  rule := ["नियम"]
  scenario := ["परिदृश्य"]
  outline := ["परिदृश्य रूपरेखा"]
  examples := ["उदाहरण"]
  steps := {
    context := ["* ", "अगर ", "यदि ", "चूंकि "]
    action := ["* ", "जब ", "कदा "]
    outcome := ["* ", "तब ", "तदा "]
    conjunction := ["* ", "और ", "तथा "]
    contrast := ["* ", "पर ", "परन्तु ", "किन्तु "] }

/-- Kannada. -/
def kannada : Dialect where
  code := "kn"
  feature := ["ಹೆಚ್ಚಳ"]
  background := ["ಹಿನ್ನೆಲೆ"]
  rule := ["Rule"]
  scenario := ["ಉದಾಹರಣೆ", "ಕಥಾಸಾರಾಂಶ"]
  outline := ["ವಿವರಣೆ"]
  examples := ["ಉದಾಹರಣೆಗಳು"]
  steps := {
    context := ["* ", "ನೀಡಿದ "]
    action := ["* ", "ಸ್ಥಿತಿಯನ್ನು "]
    outcome := ["* ", "ನಂತರ "]
    conjunction := ["* ", "ಮತ್ತು "]
    contrast := ["* ", "ಆದರೆ "] }

/-- Marathi. -/
def marathi : Dialect where
  code := "mr"
  feature := ["वैशिष्ट्य", "सुविधा"]
  background := ["पार्श्वभूमी"]
  rule := ["नियम"]
  scenario := ["परिदृश्य"]
  outline := ["परिदृश्य रूपरेखा"]
  examples := ["उदाहरण"]
  steps := {
    context := ["* ", "जर", "दिलेल्या प्रमाणे "]
    action := ["* ", "जेव्हा "]
    outcome := ["* ", "मग ", "तेव्हा "]
    conjunction := ["* ", "आणि ", "तसेच "]
    contrast := ["* ", "पण ", "परंतु "] }

/-- Nepali. -/
def nepali : Dialect where
  code := "ne"
  feature := ["सुविधा", "विशेषता"]
  background := ["पृष्ठभूमी"]
  rule := ["नियम"]
  scenario := ["परिदृश्य"]
  outline := ["परिदृश्य रूपरेखा"]
  examples := ["उदाहरण", "उदाहरणहरु"]
  steps := {
    context := ["* ", "दिइएको ", "दिएको ", "यदि "]
    action := ["* ", "जब "]
    outcome := ["* ", "त्यसपछि ", "अनी "]
    conjunction := ["* ", "र ", "अनी "]
    contrast := ["* ", "तर "] }

/-- Panjabi. -/
def panjabi : Dialect where
  code := "pa"
  feature := ["ਖਾਸੀਅਤ", "ਮੁਹਾਂਦਰਾ", "ਨਕਸ਼ ਨੁਹਾਰ"]
  background := ["ਪਿਛੋਕੜ"]
  rule := ["Rule"]
  scenario := ["ਉਦਾਹਰਨ", "ਪਟਕਥਾ"]
  outline := ["ਪਟਕਥਾ ਢਾਂਚਾ", "ਪਟਕਥਾ ਰੂਪ ਰੇਖਾ"]
  examples := ["ਉਦਾਹਰਨਾਂ"]
  steps := {
    context := ["* ", "ਜੇਕਰ ", "ਜਿਵੇਂ ਕਿ "]
    action := ["* ", "ਜਦੋਂ "]
    outcome := ["* ", "ਤਦ "]
    conjunction := ["* ", "ਅਤੇ "]
    contrast := ["* ", "ਪਰ "] }

/-- Tamil. -/
def tamil : Dialect where
  code := "ta"
  feature := ["அம்சம்", "வணிக தேவை", "திறன்"]
  background := ["பின்னணி"]
  rule := ["Rule"]
  scenario := ["உதாரணமாக", "காட்சி"]
  outline := ["காட்சி சுருக்கம்", "காட்சி வார்ப்புரு"]
  examples := ["எடுத்துக்காட்டுகள்", "காட்சிகள்", "நிலைமைகளில்"]
  steps := {
    context := ["* ", "கொடுக்கப்பட்ட "]
    action := ["* ", "எப்போது "]
    outcome := ["* ", "அப்பொழுது "]
    conjunction := ["* ", "மேலும்  ", "மற்றும் "]
    contrast := ["* ", "ஆனால்  "] }

/-- Telugu. -/
def telugu : Dialect where
  code := "te"
  feature := ["గుణము"]
  background := ["నేపథ్యం"]
  rule := ["Rule"]
  scenario := ["ఉదాహరణ", "సన్నివేశం"]
  outline := ["కథనం"]
  examples := ["ఉదాహరణలు"]
  steps := {
    context := ["* ", "చెప్పబడినది "]
    action := ["* ", "ఈ పరిస్థితిలో "]
    outcome := ["* ", "అప్పుడు "]
    conjunction := ["* ", "మరియు "]
    contrast := ["* ", "కాని "] }

/-- Urdu. -/
def urdu : Dialect where
  code := "ur"
  feature := ["صلاحیت", "کاروبار کی ضرورت", "خصوصیت"]
  background := ["پس منظر"]
  rule := ["Rule"]
  scenario := ["منظرنامہ"]
  outline := ["منظر نامے کا خاکہ"]
  examples := ["مثالیں"]
  steps := {
    context := ["* ", "اگر ", "بالفرض ", "فرض کیا "]
    action := ["* ", "جب "]
    outcome := ["* ", "پھر ", "تب "]
    conjunction := ["* ", "اور "]
    contrast := ["* ", "لیکن "] }

/-- The dialects of this module. -/
def southAsianFamily : List Dialect :=
  [gujarati, hindi, kannada, marathi, nepali, panjabi, tamil, telugu, urdu]

end FeaturePlan.Dialect
