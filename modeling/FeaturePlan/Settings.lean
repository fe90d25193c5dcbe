/-
Settings and where they come from.

There are three settings: the level from which events are logged, the heuristic for selections, and
the form of the plan.  Each is taken from the command line if it is given there, else from its
**environment variable**, else it has a default.  A variable with an invalid value is an error even
if the command line overrides it; of several such variables the first in the order of the settings
is reported.

The values of variables are bytes.  A variable with a value that is not a text **counts as not
set**.

Main definitions: `Settings`, `Overrides`, `SettingError`, `Settings.ofEnvironment`,
`Settings.load`, `Settings.override`.
-/

import FeaturePlan.Event
import FeaturePlan.Plan.Format

set_option relaxedAutoImplicit false
set_option autoImplicit false

namespace FeaturePlan

/-! ### Reading single settings -/

/-- A word that names no level. -/
structure UnknownLevel where
  word : String
deriving Repr, DecidableEq

/-- The complaint about a word that names no level. -/
def UnknownLevel.message (e : UnknownLevel) : String :=
  "unknown log level '" ++ e.word ++ "', expected one of: trace, debug, info, warn, error"

namespace Level

/-- The level that is used where none is asked for. -/
def default : Level := warn

/-- The name of a level. -/
def name : Level → String
  | trace => "trace"
  | debug => "debug"
  | info => "info"
  | warn => "warn"
  | error => "error"

/-- The rank of a level: the more attention, the higher. -/
def rank : Level → Nat
  | trace => 0
  | debug => 1
  | info => 2
  | warn => 3
  | error => 4

/-- The level that a word names, up to the case of its letters. -/
def ofName (word : String) : Except UnknownLevel Level :=
  match String.ofList (Text.lower word.toList) with
  | "trace" => .ok .trace
  | "debug" => .ok .debug
  | "info" => .ok .info
  | "warn" | "warning" => .ok .warn
  | "error" => .ok .error
  | _ => .error ⟨word⟩

end Level

/-- A word that names no form of output. -/
structure UnknownFormat where
  word : String
deriving Repr, DecidableEq

/-- The complaint about a word that names no form of output. -/
def UnknownFormat.message (e : UnknownFormat) : String :=
  "unknown output format '" ++ e.word ++ "', expected one of: text, json"

/-- The form of output that a word names, up to the case of its letters. -/
def PlanFormat.ofName (word : String) : Except UnknownFormat PlanFormat :=
  match String.ofList (Text.lower word.toList) with
  | "text" => .ok .text
  | "json" => .ok .json
  | _ => .error ⟨word⟩

/-- The name of a level names that level. -/
@[simp] theorem Level.ofName_name (level : Level) : Level.ofName level.name = .ok level := by
  cases level <;> rfl

/-- The name of a form of output names that form. -/
@[simp] theorem PlanFormat.ofName_name (format : PlanFormat) :
    PlanFormat.ofName format.name = .ok format := by
  cases format <;> rfl

/-! ### Errors -/

/-- A setting with an invalid value. -/
inductive SettingError where
  | level (cause : UnknownLevel)
  | heuristic (cause : UnknownHeuristic)
  | format (cause : UnknownFormat)
deriving Repr, DecidableEq

namespace SettingError

/-- What is wrong with the value. -/
def cause : SettingError → String
  | level e => e.message
  | heuristic e => e.message
  | format e => e.message

/-- The complaint about a setting with an invalid value. -/
def message (e : SettingError) : String := "invalid configuration: " ++ e.cause

end SettingError

/-! ### All settings -/

/-- The settings of a run. -/
structure Settings where
  level : Level := Level.default
  heuristic : Heuristic := Heuristic.default
  format : PlanFormat := PlanFormat.default
deriving Repr, DecidableEq

/-- Settings that take precedence over others. -/
structure Overrides where
  level : Option Level := none
  heuristic : Option Heuristic := none
  format : Option PlanFormat := none
deriving Repr, DecidableEq

/-- The environment variable for the level. -/
def levelVariable : String := "STEPGEN_LOG_LEVEL"

/-- The environment variable for the heuristic. -/
def heuristicVariable : String := "STEPGEN_HEURISTIC"

/-- The environment variable for the form of output. -/
def formatVariable : String := "STEPGEN_FORMAT"

/-- A setting read from the value of a variable, or the default if the variable is not set. -/
def readSetting {α ε : Type} (read : String → Except ε α) (wrap : ε → SettingError) (default : α) :
    Option String → Except SettingError α
  | none => .ok default
  | some value => (read value).mapError wrap

/-- The value of a variable if it is a text. -/
def textValue? (value? : Option ByteArray) : Option String := value?.bind String.fromUTF8?

namespace Settings

/-- The settings of an environment that gives the values of the variables set to texts. -/
def ofEnvironment (environment : String → Option String) : Except SettingError Settings := do
  let level ← readSetting Level.ofName .level Level.default (environment levelVariable)
  let heuristic ←
    readSetting Heuristic.ofName .heuristic Heuristic.default (environment heuristicVariable)
  let format ← readSetting PlanFormat.ofName .format PlanFormat.default
    (environment formatVariable)
  return ⟨level, heuristic, format⟩

/-- The settings of an environment that gives the bytes of the values. -/
def load (environment : String → Option ByteArray) : Except SettingError Settings :=
  ofEnvironment fun name => textValue? (environment name)

/-- The settings with some of them replaced. -/
def override (settings : Settings) (overrides : Overrides) : Settings where
  level := overrides.level.getD settings.level
  heuristic := overrides.heuristic.getD settings.heuristic
  format := overrides.format.getD settings.format

end Settings

end FeaturePlan
