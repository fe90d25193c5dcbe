/-
Which environments are mistakes.

The values of variables are bytes.  A variable for a setting may be set to a text that names the
setting, to a text that is **rejected**, or to bytes that are **not a text**.  Only a rejected text
is a mistake; a value that is not a text counts as not set.  So an environment with such a value is
invalid, and it is **overlooked** unless another variable is rejected.

Main definitions: `NoText`, `RejectedEnvironment`, `InvalidEnvironment`, `OverlookedEnvironment`.

Main results:

* `Settings.load_cases` — an environment is rejected, or it says what the settings are;
* `invalidEnvironment_iff`, `rejected_iff_invalid_iff` — what is invalid and not rejected.
-/

import FeaturePlan.Settings
import Mathlib.Logic.Basic

set_option relaxedAutoImplicit false
set_option autoImplicit false

namespace FeaturePlan

/-! ### Bytes and texts -/

theorem fromUTF8?_eq_some_iff {bytes : ByteArray} {text : String} :
    String.fromUTF8? bytes = some text ↔ bytes = text.toUTF8 := by
  constructor
  · intro h
    rw [String.fromUTF8?] at h
    split at h
    · rw [← Option.some.inj h]
      rfl
    · cases h
  · rintro rfl
    exact dif_pos text.isValidUTF8

/-- A value is there, and it is not a text in UTF-8. -/
def NoText (value? : Option ByteArray) : Prop :=
  ∃ bytes, value? = some bytes ∧ ∀ text : String, bytes ≠ text.toUTF8

theorem noText_iff {value? : Option ByteArray} :
    NoText value? ↔ ∃ bytes, value? = some bytes ∧ String.fromUTF8? bytes = none := by
  simp only [NoText, Option.eq_none_iff_forall_ne_some, ne_eq, fromUTF8?_eq_some_iff]

theorem textValue?_eq_some_iff {value? : Option ByteArray} {text : String} :
    textValue? value? = some text ↔ value? = some text.toUTF8 := by
  rw [textValue?, Option.bind_eq_some_iff]
  simp only [fromUTF8?_eq_some_iff, exists_eq_right]

/-! ### The environment -/

section

variable {α ε : Type}

/-- A variable is set to a text that `read` rejects. -/
def Rejected (read : String → Except ε α) (value? : Option ByteArray) : Prop :=
  ∃ text cause, value? = some text.toUTF8 ∧ read text = .error cause

/-- A variable is set to a value that is no text which `read` accepts. -/
def Invalid (read : String → Except ε α) (value? : Option ByteArray) : Prop :=
  ∃ bytes, value? = some bytes ∧ ∀ text setting, read text = .ok setting → bytes ≠ text.toUTF8

variable {read : String → Except ε α} {wrap : ε → SettingError} {default : α}
  {value? : Option ByteArray}

theorem invalid_iff : Invalid read value? ↔ Rejected read value? ∨ NoText value? := by
  constructor
  · rintro ⟨bytes, rfl, hinvalid⟩
    cases htext : String.fromUTF8? bytes with
    | none => exact Or.inr (noText_iff.2 ⟨bytes, rfl, htext⟩)
    | some text =>
        obtain rfl := fromUTF8?_eq_some_iff.1 htext
        cases hread : read text with
        | ok setting => exact absurd rfl (hinvalid text setting hread)
        | error cause => exact Or.inl ⟨text, cause, rfl, hread⟩
  · rintro (⟨text, cause, rfl, hread⟩ | ⟨bytes, rfl, hno⟩)
    · refine ⟨_, rfl, fun other setting hother hsame => ?_⟩
      obtain rfl := String.toByteArray_inj.1 hsame
      rw [hread] at hother
      cases hother
    · exact ⟨bytes, rfl, fun text _ _ => hno text⟩

variable (read wrap default value?) in
/-- A variable is rejected, or it says what the setting is. -/
theorem readSetting_cases :
    (Rejected read value? ∧
      ∃ e, readSetting read wrap default (textValue? value?) = .error e) ∨
    (¬Rejected read value? ∧
      ∃ setting, readSetting read wrap default (textValue? value?) = .ok setting) := by
  cases hvalue : textValue? value? with
  | none =>
      refine Or.inr ⟨?_, default, rfl⟩
      rintro ⟨text, cause, htext, -⟩
      rw [textValue?_eq_some_iff.2 htext] at hvalue
      cases hvalue
  | some text =>
      cases hread : read text with
      | ok setting =>
          refine Or.inr ⟨?_, setting, by rw [readSetting, hread]; rfl⟩
          rintro ⟨other, cause, hother, hcause⟩
          rw [textValue?_eq_some_iff.2 hother, Option.some.injEq] at hvalue
          rw [hvalue, hread] at hcause
          cases hcause
      | error cause =>
          refine Or.inl ⟨⟨text, cause, textValue?_eq_some_iff.1 hvalue, hread⟩, wrap cause, ?_⟩
          rw [readSetting, hread]
          rfl

end

section

variable (environment : String → Option ByteArray)

/-- One of the variables for settings is set to a text that is rejected. -/
def RejectedEnvironment : Prop :=
  Rejected Level.ofName (environment levelVariable) ∨
    Rejected Heuristic.ofName (environment heuristicVariable) ∨
      Rejected PlanFormat.ofName (environment formatVariable)

/-- One of the variables for settings is set to an invalid value. -/
def InvalidEnvironment : Prop :=
  Invalid Level.ofName (environment levelVariable) ∨
    Invalid Heuristic.ofName (environment heuristicVariable) ∨
      Invalid PlanFormat.ofName (environment formatVariable)

/-- One of the variables for settings is set to a value that is not a text, and none to a text that
is rejected. -/
structure OverlookedEnvironment : Prop where
  noText : NoText (environment levelVariable) ∨ NoText (environment heuristicVariable) ∨
    NoText (environment formatVariable)
  accepted : ¬RejectedEnvironment environment

/-- An environment is invalid if it is rejected or overlooked. -/
theorem invalidEnvironment_iff :
    InvalidEnvironment environment ↔
      RejectedEnvironment environment ∨ OverlookedEnvironment environment := by
  have hoverlooked : RejectedEnvironment environment ∨ OverlookedEnvironment environment ↔
      RejectedEnvironment environment ∨ (NoText (environment levelVariable) ∨
        NoText (environment heuristicVariable) ∨ NoText (environment formatVariable)) := by
    constructor
    · exact Or.imp_right fun h => h.noText
    · rintro (h | h)
      · exact Or.inl h
      · exact or_iff_not_imp_left.2 fun haccepted => ⟨h, haccepted⟩
  rw [hoverlooked, InvalidEnvironment, RejectedEnvironment, invalid_iff, invalid_iff, invalid_iff]
  exact (or_congr_right or_or_or_comm).trans or_or_or_comm

/-- To be rejected is to be invalid, but for environments that are overlooked. -/
theorem rejected_iff_invalid_iff :
    (RejectedEnvironment environment ↔ InvalidEnvironment environment) ↔
      ¬OverlookedEnvironment environment := by
  rw [invalidEnvironment_iff]
  constructor
  · intro h hoverlooked
    exact hoverlooked.accepted (h.2 (Or.inr hoverlooked))
  · intro h
    exact (or_iff_left h).symm

/-- An environment is rejected, or it says what the settings are. -/
theorem Settings.load_cases :
    (RejectedEnvironment environment ∧ ∃ e, Settings.load environment = .error e) ∨
    (¬RejectedEnvironment environment ∧
      ∃ settings, Settings.load environment = .ok settings) := by
  rw [RejectedEnvironment, Settings.load, Settings.ofEnvironment]
  rcases readSetting_cases Level.ofName .level Level.default (environment levelVariable) with
    ⟨hrejected, e, he⟩ | ⟨hlevel, level, hlevel'⟩
  · exact Or.inl ⟨Or.inl hrejected, e, by rw [he]; rfl⟩
  rcases readSetting_cases Heuristic.ofName .heuristic Heuristic.default
      (environment heuristicVariable) with
    ⟨hrejected, e, he⟩ | ⟨hheuristic, heuristic, hheuristic'⟩
  · exact Or.inl ⟨Or.inr (Or.inl hrejected), e, by rw [hlevel', he]; rfl⟩
  rcases readSetting_cases PlanFormat.ofName .format PlanFormat.default
      (environment formatVariable) with
    ⟨hrejected, e, he⟩ | ⟨hformat, format, hformat'⟩
  · exact Or.inl ⟨Or.inr (Or.inr hrejected), e, by rw [hlevel', hheuristic', he]; rfl⟩
  refine Or.inr ⟨?_, ⟨level, heuristic, format⟩, by rw [hlevel', hheuristic', hformat']; rfl⟩
  rintro (h | h | h)
  · exact hlevel h
  · exact hheuristic h
  · exact hformat h

end

end FeaturePlan
