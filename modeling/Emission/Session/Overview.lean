import Emission.Session.Configuration

/-!
# The overview

What is told about the library as it is set up: its settings and the targets in the catalog.
-/

namespace Emission.Session

/-- What is told about the library. -/
structure Overview where
  version : String
  author : String
  settingsFile : String
  defaultTarget : Value
  targets : List Target.Description

def version : String := "0.1.0"

def author : String := "targetkit Team"

/-- What is told about each target in the catalog. -/
def describeTargets : Action (List Target.Description) := do
  MonadExcept.ofExcept (← get).catalog.describe

def overview : Action Overview := do
  let s ← settingsAt (← currentSettings)
  return {
    version, author
    settingsFile := s.file.text
    defaultTarget := s.defaultTarget
    targets := ← describeTargets }

/-! ## As a text -/

def lines (ls : List String) : String := String.join (ls.map (· ++ "\n"))

def title : String :=
  lines ["targetkit Target Adaptation Layer", .ofList (List.replicate 40 '=')]

def truthText (b : Bool) : String := (Value.bool b).display

/-- The lines about one target. -/
def targetLines (d : Target.Description) : List String :=
  let modes := Value.commaSeparated d.modes
  ["  " ++ d.name ++ " " ++ d.version,
   "    Overloaded Methods: " ++ truthText d.overloading,
   "    Max Serialized Segment: " ++ toString d.segmentSize,
   "    Reserved Words: " ++ toString d.reservedWords,
   "    Escape Modes: " ++ (if modes = "" then "(none)" else modes)]

/-- The overview below the title. -/
def Overview.text (o : Overview) : String :=
  lines
    (["",
      "targetkit Version: " ++ o.version,
      "Author: " ++ o.author,
      "Config File: " ++ o.settingsFile,
      "Default Target: " ++ o.defaultTarget.display,
      "",
      "Registered Targets:"] ++
      (if o.targets.isEmpty then ["  (none)"] else o.targets.flatMap targetLines))

/-- The printed overview and whether it succeeded. A failure is told below the title. -/
def printed : Action (Bool × String) := do
  match ← attempt overview with
  | .ok o => return (true, title ++ o.text)
  | .error e =>
    return (false, title ++ lines ["Error getting system information: " ++ e.message])

end Emission.Session
