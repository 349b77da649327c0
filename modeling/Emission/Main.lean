import Emission.Session.Overview

/-!
# The command line

Prints the overview of the library as it is set up by the environment and by the settings files in the
working directory. The exit code is one if the overview cannot be made.
-/

namespace Emission.Main

/-- The bytes of a file, if it can be read. -/
def readFile? (name : String) : IO (Option (List UInt8)) := do
  try return some (← IO.FS.readBinFile name).toList
  catch _ => return none

/-- A session with the variables and settings files that are there. -/
def openSession : IO Session := do
  let mut s := Session.initial
  for name in Settings.watchedNames do
    let value ← IO.getEnv name
    s := (s.perform (Session.setVariable name value)).2
  for name in Settings.defaultNames do
    if let some bs ← readFile? name then
      s := (s.perform (Session.putFile name (.bytes bs))).2
  return s

end Emission.Main

/-- Prints the overview. -/
def main : IO UInt32 := do
  let s ← Emission.Main.openSession
  match (s.perform Emission.Session.printed).1 with
  | .ok (succeeded, text) =>
    IO.print text
    return if succeeded then 0 else 1
  | .error e =>
    IO.eprintln e.message
    return 1
