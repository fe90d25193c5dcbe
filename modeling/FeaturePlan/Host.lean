/-
The command line program.

The command is equipped with the reader of command lines, the grammar of feature files and the
printer of JSON values.  A mistake in the arguments ends it with status 2; a request for help or for
the version is answered and nothing else is looked at.

Main definitions: `readCommandLine`, `standardEquipment`, and `respond`, the whole program.
-/

import FeaturePlan.Arguments
import FeaturePlan.Command

set_option relaxedAutoImplicit false
set_option autoImplicit false

namespace FeaturePlan

/-- What is printed on a request for the version. -/
def versionText : String := "stepgen 0.1.0\n"

/-- What is printed on a request for help. -/
def helpText : String :=
  "Print what a step generator would produce for part of a feature file\n\n" ++
  "Usage: stepgen [OPTIONS] <FEATURE>\n\n" ++
  "Options:\n" ++
  "      --start <START>          First selected line [default: 1]\n" ++
  "      --end <END>              Last selected line; defaults to the last line\n" ++
  "      --format <FORMAT>        Plan format (text, json)\n" ++
  "      --heuristic <HEURISTIC>  Selection heuristic (text, structure)\n" ++
  "      --log-level <LOG_LEVEL>  Log level (trace, debug, info, warn, error)\n" ++
  "  -h, --help                   Print help\n" ++
  "  -V, --version                Print version\n"

/-- The plan that a command line asks for, or the response to one that asks for none. -/
def readCommandLine (arguments : List String) : Except Response (PlanRequest String) :=
  match Request.ofArguments arguments with
  | .error e => .error { exit := 2, log := ["error " ++ e.message] }
  | .ok .help => .error { exit := 0, output := helpText }
  | .ok .version => .error { exit := 0, output := versionText }
  | .ok (.plan file first last overrides) => .ok ⟨file, first, last, overrides⟩

/-- What the program is built on. -/
def standardEquipment : Equipment (List String) String SyntaxError Empty where
  readArguments := readCommandLine
  grammar := Gherkin.Document.parse
  printJson := Json.write
  syntaxMessage := SyntaxError.message
  printMessage := nofun

/-- The whole program, for an environment in which all values are texts. -/
def respond (arguments : List String) (environment : String → Option String)
    (contents : String → Option ByteArray) : Response :=
  standardEquipment.respond arguments (fun name => (environment name).map String.toUTF8) contents

end FeaturePlan
