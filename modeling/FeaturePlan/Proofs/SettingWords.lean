/-
Which values settings have, and where from.

A setting is named by one of a few **words**, all of them of small ASCII letters.  Values are
compared with the words by their lowercase forms, and since no word has a `k`, this identifies
just the letters of ASCII that differ in case: a value with any letter outside ASCII is rejected.
The value for the heuristic may have blanks at its ends, the other two may not.

The environment is looked at before the command line has its say.  So a variable with a value that
names nothing is an error whatever the command line says, and of several such variables the first
in the order of the settings is reported, with its value as it was given.

Main definitions:

* `Spells`, `Level.NamedBy`, `Heuristic.NamedBy`, `PlanFormat.NamedBy` — what values name;
* `Resolves` — where a setting comes from;
* `FirstMistake` — which variable is reported;
* `Settings.resolve` — the environment and the command line together.

Main results:

* `spells_iff_lower` — comparing letters is comparing lowercase forms;
* `Settings.resolve_isOk_iff`, `Settings.resolve_eq_error_iff` — when there are settings, and which
  mistake is reported;
* `settings_resolve_field_by_field` — the law of settings.
-/

import FeaturePlan.Proofs.Text.PlainWords
import FeaturePlan.Settings

set_option relaxedAutoImplicit false
set_option autoImplicit false

namespace FeaturePlan

/-! ### Words -/

/-- The words for levels. -/
def Level.words : List (String × Level) :=
  [("trace", .trace), ("debug", .debug), ("info", .info), ("warn", .warn), ("warning", .warn),
   ("error", .error)]

/-- The words for heuristics. -/
def Heuristic.words : List (String × Heuristic) :=
  [("text", .text), ("structure", .structural), ("structural", .structural)]

/-- The words for forms of output. -/
def PlanFormat.words : List (String × PlanFormat) := [("text", .text), ("json", .json)]

section

variable {α ε : Type}

/-- The characters are a word for the setting, up to the case of ASCII letters. -/
def Spells (words : List (String × α)) (cs : List Char) (setting : α) : Prop :=
  ∃ word, (word, setting) ∈ words ∧ Text.sameLetters cs word.toList = true

/-- Whether all words are plain. -/
def arePlain (words : List (String × α)) : Bool :=
  words.all fun entry => Text.isPlainWord entry.1.toList

variable {words : List (String × α)} {cs : List Char} {setting : α}

theorem isPlainWord_of_mem {entry : String × α} (h : arePlain words = true)
    (hentry : entry ∈ words) : Text.isPlainWord entry.1.toList = true :=
  List.all_eq_true.1 h entry hentry

/-- Comparing the letters with those of plain words is comparing the lowercase form. -/
theorem spells_iff_lower (h : arePlain words = true) :
    Spells words cs setting ↔ (String.ofList (Text.lower cs), setting) ∈ words := by
  constructor
  · rintro ⟨word, hword, hletters⟩
    rw [← Text.lower_eq_iff_sameLetters (isPlainWord_of_mem h hword)] at hletters
    rwa [hletters, String.ofList_toList]
  · intro hmem
    refine ⟨_, hmem, ?_⟩
    rw [← Text.lower_eq_iff_sameLetters (isPlainWord_of_mem h hmem), String.toList_ofList]

theorem Spells.ascii (h : arePlain words = true) (hspells : Spells words cs setting) :
    ∀ c ∈ cs, c.toNat < 0x80 := by
  obtain ⟨word, hword, hletters⟩ := hspells
  exact Text.ascii_of_sameLetters (isPlainWord_of_mem h hword) hletters

/-! ### Reading one value -/

/-- The reader accepts just the values that name a setting, and it rejects every other value with
the same cause but for the value. -/
structure Reads (read : String → Except ε α) (names : String → α → Prop) (cause : String → ε) :
    Prop where
  ok_iff : ∀ {value setting}, read value = .ok setting ↔ names value setting
  eq_cause : ∀ {value e}, read value = .error e → e = cause value

end

/-- The value names the level. -/
def Level.NamedBy (value : String) (level : Level) : Prop := Spells Level.words value.toList level

/-- The value names the heuristic, perhaps with blanks at its ends. -/
def Heuristic.NamedBy (value : String) (heuristic : Heuristic) : Prop :=
  Spells Heuristic.words (Text.trim value.toList) heuristic

/-- The value names the form of output. -/
def PlanFormat.NamedBy (value : String) (format : PlanFormat) : Prop :=
  Spells PlanFormat.words value.toList format

theorem arePlain_levelWords : arePlain Level.words = true := by decide

theorem arePlain_heuristicWords : arePlain Heuristic.words = true := by decide

theorem arePlain_formatWords : arePlain PlanFormat.words = true := by decide

theorem Level.reads : Reads Level.ofName Level.NamedBy UnknownLevel.mk where
  ok_iff := by
    intro value level
    rw [Level.NamedBy, spells_iff_lower arePlain_levelWords, Level.ofName]
    generalize String.ofList (Text.lower value.toList) = word
    split <;> simp_all [Level.words, eq_comm]
  eq_cause := by
    intro value e h
    rw [Level.ofName] at h
    split at h <;> cases h
    rfl

theorem Heuristic.reads : Reads Heuristic.ofName Heuristic.NamedBy UnknownHeuristic.mk where
  ok_iff := by
    intro value heuristic
    rw [Heuristic.NamedBy, spells_iff_lower arePlain_heuristicWords, Heuristic.ofName]
    generalize String.ofList (Text.lower (Text.trim value.toList)) = word
    split <;> simp_all [Heuristic.words, eq_comm]
  eq_cause := by
    intro value e h
    rw [Heuristic.ofName] at h
    split at h <;> cases h
    rfl

theorem PlanFormat.reads : Reads PlanFormat.ofName PlanFormat.NamedBy UnknownFormat.mk where
  ok_iff := by
    intro value format
    rw [PlanFormat.NamedBy, spells_iff_lower arePlain_formatWords, PlanFormat.ofName]
    generalize String.ofList (Text.lower value.toList) = word
    split <;> simp_all [PlanFormat.words, eq_comm]
  eq_cause := by
    intro value e h
    rw [PlanFormat.ofName] at h
    split at h <;> cases h
    rfl

/-! ### Variables -/

section

variable {α ε : Type} {read : String → Except ε α} {names : String → α → Prop} {cause : String → ε}
  {wrap : ε → SettingError} {default : α} {value? : Option String}

/-- A variable that is not set, or one with a value that names a setting. -/
def Meaningful (names : String → α → Prop) (value? : Option String) : Prop :=
  ∀ value, value? = some value → ∃ setting, names value setting

/-- A variable with the given value, which names nothing. -/
def Meaningless (names : String → α → Prop) (value? : Option String) (value : String) : Prop :=
  value? = some value ∧ ∀ setting, ¬names value setting

/-- Where a setting comes from: from the command line if it is given there, else from the value of
its variable if this is set, else it is the default. -/
inductive Resolves (names : String → α → Prop) (default : α) : Option α → Option String → α → Prop
  | given (setting : α) (value? : Option String) :
      Resolves names default (some setting) value? setting
  | named {value : String} {setting : α} (h : names value setting) :
      Resolves names default none (some value) setting
  | unset : Resolves names default none none default

theorem meaningful_or_meaningless (names : String → α → Prop) (value? : Option String) :
    Meaningful names value? ∨ ∃ value, Meaningless names value? value := by
  cases value? with
  | none => exact Or.inl nofun
  | some value =>
      by_cases h : ∃ setting, names value setting
      · exact Or.inl fun other hother => Option.some.inj hother ▸ h
      · exact Or.inr ⟨value, rfl, not_exists.1 h⟩

/-- A variable that is not set, or one with a value that names a setting, gives this setting
unless the command line gives another one. -/
theorem Reads.readSetting_of_meaningful (h : Reads read names cause) (wrap : ε → SettingError)
    (default : α) (hvalue : Meaningful names value?) :
    ∃ setting, readSetting read wrap default value? = .ok setting ∧
      ∀ given? : Option α, Resolves names default given? value? (given?.getD setting) := by
  cases value? with
  | none =>
      refine ⟨default, rfl, fun given? => ?_⟩
      cases given? with
      | none => exact .unset
      | some setting => exact .given setting none
  | some value =>
      obtain ⟨setting, hsetting⟩ := hvalue value rfl
      refine ⟨setting, ?_, fun given? => ?_⟩
      · rw [readSetting, h.ok_iff.2 hsetting]
        rfl
      · cases given? with
        | none => exact .named hsetting
        | some given => exact .given given (some value)

/-- A variable with a value that names nothing is rejected with this value. -/
theorem Reads.readSetting_of_meaningless (h : Reads read names cause) (wrap : ε → SettingError)
    (default : α) {value : String} (hvalue : Meaningless names value? value) :
    readSetting read wrap default value? = .error (wrap (cause value)) := by
  obtain ⟨rfl, hnone⟩ := hvalue
  rw [readSetting]
  cases hread : read value with
  | ok setting => exact absurd (h.ok_iff.1 hread) (hnone setting)
  | error e =>
      rw [h.eq_cause hread]
      rfl

end

/-! ### The environment and the command line -/

/-- Every variable for a setting is not set, or has a value that names a setting. -/
structure AllMeaningful (environment : String → Option String) : Prop where
  level : Meaningful Level.NamedBy (environment levelVariable)
  heuristic : Meaningful Heuristic.NamedBy (environment heuristicVariable)
  format : Meaningful PlanFormat.NamedBy (environment formatVariable)

/-- The error about the first variable with a value that names nothing, in the order of level,
heuristic and form of output. -/
inductive FirstMistake (environment : String → Option String) : SettingError → Prop
  | level {value : String} (h : Meaningless Level.NamedBy (environment levelVariable) value) :
      FirstMistake environment (.level ⟨value⟩)
  | heuristic {value : String} (hlevel : Meaningful Level.NamedBy (environment levelVariable))
      (h : Meaningless Heuristic.NamedBy (environment heuristicVariable) value) :
      FirstMistake environment (.heuristic ⟨value⟩)
  | format {value : String} (hlevel : Meaningful Level.NamedBy (environment levelVariable))
      (hheuristic : Meaningful Heuristic.NamedBy (environment heuristicVariable))
      (h : Meaningless PlanFormat.NamedBy (environment formatVariable) value) :
      FirstMistake environment (.format ⟨value⟩)

/-- Each setting comes from the command line, from its variable or from the defaults. -/
structure AllResolved (environment : String → Option String) (overrides : Overrides)
    (settings : Settings) : Prop where
  level : Resolves Level.NamedBy Level.default overrides.level (environment levelVariable)
    settings.level
  heuristic : Resolves Heuristic.NamedBy Heuristic.default overrides.heuristic
    (environment heuristicVariable) settings.heuristic
  format : Resolves PlanFormat.NamedBy PlanFormat.default overrides.format
    (environment formatVariable) settings.format

namespace Settings

/-- The settings of an environment as the command line overrides them. -/
def resolve (environment : String → Option String) (overrides : Overrides) :
    Except SettingError Settings :=
  (ofEnvironment environment).map fun settings => settings.override overrides

variable {environment : String → Option String}

theorem allMeaningful_or_firstMistake (environment : String → Option String) :
    AllMeaningful environment ∨ ∃ e, FirstMistake environment e := by
  rcases meaningful_or_meaningless Level.NamedBy (environment levelVariable) with
    hlevel | ⟨value, hvalue⟩
  · rcases meaningful_or_meaningless Heuristic.NamedBy (environment heuristicVariable) with
      hheuristic | ⟨value, hvalue⟩
    · rcases meaningful_or_meaningless PlanFormat.NamedBy (environment formatVariable) with
        hformat | ⟨value, hvalue⟩
      · exact Or.inl ⟨hlevel, hheuristic, hformat⟩
      · exact Or.inr ⟨_, .format hlevel hheuristic hvalue⟩
    · exact Or.inr ⟨_, .heuristic hlevel hvalue⟩
  · exact Or.inr ⟨_, .level hvalue⟩

theorem resolve_of_allMeaningful (h : AllMeaningful environment) (overrides : Overrides) :
    ∃ settings, resolve environment overrides = .ok settings ∧
      AllResolved environment overrides settings := by
  obtain ⟨level, hlevel, hlevels⟩ :=
    Level.reads.readSetting_of_meaningful .level Level.default h.level
  obtain ⟨heuristic, hheuristic, hheuristics⟩ :=
    Heuristic.reads.readSetting_of_meaningful .heuristic Heuristic.default h.heuristic
  obtain ⟨format, hformat, hformats⟩ :=
    PlanFormat.reads.readSetting_of_meaningful .format PlanFormat.default h.format
  refine ⟨override ⟨level, heuristic, format⟩ overrides, ?_, hlevels _, hheuristics _, hformats _⟩
  rw [resolve, ofEnvironment, hlevel, hheuristic, hformat]
  rfl

theorem resolve_of_firstMistake {e : SettingError} (h : FirstMistake environment e)
    (overrides : Overrides) : resolve environment overrides = .error e := by
  rw [resolve, ofEnvironment]
  cases h with
  | level h =>
      rw [Level.reads.readSetting_of_meaningless .level Level.default h]
      rfl
  | heuristic hlevel h =>
      obtain ⟨level, hlevel, -⟩ :=
        Level.reads.readSetting_of_meaningful .level Level.default hlevel
      rw [hlevel, Heuristic.reads.readSetting_of_meaningless .heuristic Heuristic.default h]
      rfl
  | format hlevel hheuristic h =>
      obtain ⟨level, hlevel, -⟩ :=
        Level.reads.readSetting_of_meaningful .level Level.default hlevel
      obtain ⟨heuristic, hheuristic, -⟩ :=
        Heuristic.reads.readSetting_of_meaningful .heuristic Heuristic.default hheuristic
      rw [hlevel, hheuristic,
        PlanFormat.reads.readSetting_of_meaningless .format PlanFormat.default h]
      rfl

/-- The environment and the command line give settings just if every variable means something. -/
theorem resolve_isOk_iff {overrides : Overrides} :
    (∃ settings, resolve environment overrides = .ok settings) ↔ AllMeaningful environment := by
  rcases allMeaningful_or_firstMistake environment with hall | ⟨e, he⟩
  · obtain ⟨settings, hsettings, -⟩ := resolve_of_allMeaningful hall overrides
    exact iff_of_true ⟨settings, hsettings⟩ hall
  · have herror := resolve_of_firstMistake he overrides
    refine iff_of_false ?_ fun hall => ?_
    · rintro ⟨settings, hsettings⟩
      rw [herror] at hsettings
      cases hsettings
    · obtain ⟨settings, hsettings, -⟩ := resolve_of_allMeaningful hall overrides
      rw [herror] at hsettings
      cases hsettings

theorem allResolved_of_resolve {overrides : Overrides} {settings : Settings}
    (h : resolve environment overrides = .ok settings) :
    AllResolved environment overrides settings := by
  obtain ⟨found, hfound, hresolved⟩ :=
    resolve_of_allMeaningful (resolve_isOk_iff.1 ⟨settings, h⟩) overrides
  obtain rfl := Except.ok.inj (h.symm.trans hfound)
  exact hresolved

/-- Else the first mistake is reported, whatever the command line says. -/
theorem resolve_eq_error_iff {overrides : Overrides} {e : SettingError} :
    resolve environment overrides = .error e ↔ FirstMistake environment e := by
  refine ⟨fun h => ?_, fun h => resolve_of_firstMistake h overrides⟩
  rcases allMeaningful_or_firstMistake environment with hall | ⟨found, hfound⟩
  · obtain ⟨settings, hsettings, -⟩ := resolve_of_allMeaningful hall overrides
    rw [h] at hsettings
    cases hsettings
  · obtain rfl := Except.error.inj (h.symm.trans (resolve_of_firstMistake hfound overrides))
    exact hfound

/-- No other variable matters. -/
theorem resolve_congr {other : String → Option String}
    (hlevel : other levelVariable = environment levelVariable)
    (hheuristic : other heuristicVariable = environment heuristicVariable)
    (hformat : other formatVariable = environment formatVariable) (overrides : Overrides) :
    resolve other overrides = resolve environment overrides := by
  rw [resolve, resolve, ofEnvironment, ofEnvironment, hlevel, hheuristic, hformat]

end Settings

/-! ### The law -/

/-- A complaint keeps the value that it quotes if words are put in front of it. -/
theorem append_quoted {front words both : String} (h : front ++ words = both)
    (value back : String) : front ++ (words ++ value ++ back) = both ++ value ++ back := by
  rw [← h, String.append_assoc, String.append_assoc, String.append_assoc]

theorem SettingError.message_level (value : String) :
    (SettingError.level ⟨value⟩).message = "invalid configuration: unknown log level '" ++ value ++
      "', expected one of: trace, debug, info, warn, error" :=
  append_quoted (by decide) value "', expected one of: trace, debug, info, warn, error"

theorem SettingError.message_heuristic (value : String) :
    (SettingError.heuristic ⟨value⟩).message =
      "invalid configuration: unknown selection heuristic '" ++ value ++
        "', expected one of: text, structure" :=
  append_quoted (by decide) value "', expected one of: text, structure"

theorem SettingError.message_format (value : String) :
    (SettingError.format ⟨value⟩).message = "invalid configuration: unknown output format '" ++
      value ++ "', expected one of: text, json" :=
  append_quoted (by decide) value "', expected one of: text, json"

/-- A value that names a level or a form of output is in ASCII, and one that names a heuristic is
so but for blanks. -/
theorem AllMeaningful.ascii {environment : String → Option String} (h : AllMeaningful environment) :
    (∀ value, environment levelVariable = some value ∨ environment formatVariable = some value →
      ∀ c ∈ value.toList, c.toNat < 0x80) ∧
    ∀ value, environment heuristicVariable = some value →
      ∀ c ∈ value.toList, c.toNat < 0x80 ∨ Text.isBlank c = true := by
  constructor
  · rintro value (hvalue | hvalue)
    · obtain ⟨level, hlevel⟩ := h.level value hvalue
      exact Spells.ascii arePlain_levelWords hlevel
    · obtain ⟨format, hformat⟩ := h.format value hvalue
      exact Spells.ascii arePlain_formatWords hformat
  · intro value hvalue c hc
    obtain ⟨heuristic, hheuristic⟩ := h.heuristic value hvalue
    exact (Text.mem_trim_or_isBlank hc).imp_left
      fun hkept => Spells.ascii arePlain_heuristicWords hheuristic c hkept

/-- **Settings are resolved field by field.**  There are settings just if every variable that is
set names one, and then each setting comes from the command line, else from its variable, else
from the defaults.  Otherwise the first variable that names nothing is reported, with its value as
it was given and whatever the command line says.  No other variable matters, and no letter outside
ASCII is accepted. -/
theorem settings_resolve_field_by_field (environment : String → Option String)
    (overrides : Overrides) :
    ((∃ settings, Settings.resolve environment overrides = .ok settings) ↔
      (∀ value, environment levelVariable = some value → ∃ level, Level.NamedBy value level) ∧
      (∀ value, environment heuristicVariable = some value →
        ∃ heuristic, Heuristic.NamedBy value heuristic) ∧
      ∀ value, environment formatVariable = some value →
        ∃ format, PlanFormat.NamedBy value format) ∧
    (∀ settings, Settings.resolve environment overrides = .ok settings →
      Resolves Level.NamedBy Level.default overrides.level (environment levelVariable)
        settings.level ∧
      Resolves Heuristic.NamedBy Heuristic.default overrides.heuristic
        (environment heuristicVariable) settings.heuristic ∧
      Resolves PlanFormat.NamedBy PlanFormat.default overrides.format (environment formatVariable)
        settings.format) ∧
    (∀ e, Settings.resolve environment overrides = .error e ↔ FirstMistake environment e) ∧
    (∀ value,
      (SettingError.level ⟨value⟩).message = "invalid configuration: unknown log level '" ++
        value ++ "', expected one of: trace, debug, info, warn, error" ∧
      (SettingError.heuristic ⟨value⟩).message =
        "invalid configuration: unknown selection heuristic '" ++ value ++
          "', expected one of: text, structure" ∧
      (SettingError.format ⟨value⟩).message = "invalid configuration: unknown output format '" ++
        value ++ "', expected one of: text, json") ∧
    (∀ other : String → Option String, other levelVariable = environment levelVariable →
      other heuristicVariable = environment heuristicVariable →
      other formatVariable = environment formatVariable →
      Settings.resolve other overrides = Settings.resolve environment overrides) ∧
    (∀ settings, Settings.resolve environment overrides = .ok settings →
      (∀ value, environment levelVariable = some value ∨ environment formatVariable = some value →
        ∀ c ∈ value.toList, c.toNat < 0x80) ∧
      ∀ value, environment heuristicVariable = some value →
        ∀ c ∈ value.toList, c.toNat < 0x80 ∨ Text.isBlank c = true) := by
  refine ⟨?_, fun settings hsettings => ?_, fun e => Settings.resolve_eq_error_iff, fun value => ?_,
    fun other hlevel hheuristic hformat =>
      Settings.resolve_congr hlevel hheuristic hformat overrides, fun settings hsettings => ?_⟩
  · rw [Settings.resolve_isOk_iff]
    exact ⟨fun h => ⟨h.level, h.heuristic, h.format⟩, fun h => ⟨h.1, h.2.1, h.2.2⟩⟩
  · have hresolved := Settings.allResolved_of_resolve hsettings
    exact ⟨hresolved.level, hresolved.heuristic, hresolved.format⟩
  · exact ⟨SettingError.message_level value, SettingError.message_heuristic value,
      SettingError.message_format value⟩
  · exact (Settings.resolve_isOk_iff.1 ⟨settings, hsettings⟩).ascii

/-- A level that is overridden, a heuristic with blanks of two kinds around it and a form of output
that is not set; and two values that name nothing, the first of which looks like a word and is
overridden. -/
theorem settings_resolve_field_by_field_structural :
    (Resolves Level.NamedBy Level.default (some .error) (some "WaRn") .error ∧
      Resolves Heuristic.NamedBy Heuristic.default none (some "\u00A0Structural\n") .structural ∧
      Resolves PlanFormat.NamedBy PlanFormat.default none none .text) ∧
    FirstMistake (fun name => if name = heuristicVariable then some "te\u0445t" else some "warn")
      (.heuristic ⟨"te\u0445t"⟩) := by
  constructor
  · have hresolve : Settings.resolve
        (fun name => if name = levelVariable then some "WaRn"
          else if name = heuristicVariable then some "\u00A0Structural\n" else none)
        { level := some .error } = .ok ⟨.error, .structural, .text⟩ := rfl
    exact (settings_resolve_field_by_field _ _).2.1 _ hresolve
  · have hresolve : Settings.resolve
        (fun name => if name = heuristicVariable then some "te\u0445t" else some "warn")
        { heuristic := some .text } = .error (.heuristic ⟨"te\u0445t"⟩) := rfl
    exact ((settings_resolve_field_by_field _ _).2.2.1 _).1 hresolve

end FeaturePlan
