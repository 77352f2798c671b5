import EntityTrust.Json.Printer
import EntityTrust.Service.Settings

/-!
# Command line

Prints the settings that the environment asks for, or reports the variable that cannot be read.
-/

namespace EntityTrust

/-- The variables of the environment that hold settings. -/
def readEnvironment : IO (String → Option String) := do
  let pairs ← Service.Settings.allVariables.mapM fun v => do pure (v.name, ← IO.getEnv v.name)
  pure fun name => (pairs.lookup name).join

end EntityTrust

open EntityTrust

def main : IO UInt32 := do
  match Service.Settings.ofEnvironment (← readEnvironment) with
  | .ok settings => do
      IO.println (Json.render settings.toJson)
      pure 0
  | .error e => do
      IO.eprintln e.message
      pure 1
