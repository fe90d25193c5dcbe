/-
The executable: it fetches what the command looks at, and does what the response says.
-/

import FeaturePlan.Host

set_option relaxedAutoImplicit false
set_option autoImplicit false

namespace FeaturePlan

/-- The environment variables that are set, among those that matter.  Their values arrive as texts
here, so of bytes that are no text another value is seen. -/
def environmentSettings : IO (List (String × String)) := do
  let mut found := []
  for name in [levelVariable, heuristicVariable, formatVariable] do
    if let some value ← IO.getEnv name then
      found := found ++ [(name, value)]
  return found

/-- The bytes of a file, if it can be read. -/
def fileContents (file : String) : IO (Option ByteArray) := do
  try
    return some (← IO.FS.readBinFile file)
  catch _ =>
    return none

/-- Does what a response says. -/
def perform (response : Response) : IO UInt32 := do
  for line in response.log ++ response.warnings do
    IO.eprintln line
  IO.print response.output
  return response.exit.toUInt32

/-- Runs the command with the given arguments. -/
def runCommand (arguments : List String) : IO UInt32 := do
  let environment ← environmentSettings
  let value? (name : String) := (environment.find? (·.1 == name)).map fun entry => entry.2.toUTF8
  match standardEquipment.prepare arguments value? with
  | .settled response => perform response
  | .pending request settings =>
    perform (standardEquipment.answer request settings (← fileContents request.file))

end FeaturePlan

/-- The command. -/
def main (arguments : List String) : IO UInt32 := FeaturePlan.runCommand arguments
