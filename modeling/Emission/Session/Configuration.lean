import Emission.Session

/-!
# Settings in a session

Reading and saving settings, and what follows from them.
-/

namespace Emission.Session

/-- Reads settings from a file, or from the place where they are looked for. What cannot be read is
reported and gives the default ones. -/
def readSettings (name : Option String) (readers : Settings.Readers := .standard) : Action Settings := do
  let s ← get
  let file := Settings.fileOf s.files name
  let v ← match Settings.load s.files file readers with
    | .missing =>
      record .settings .debug ("Configuration file " ++ file.text ++ " not found, using defaults")
      pure (.dict [])
    | .broken =>
      record .settings .error "Failed to load configuration"
      pure (.dict [])
    | .read v =>
      record .settings .info ("Loaded configuration from " ++ file.text)
      pure v
    | .failed e => throw e
  MonadExcept.ofExcept (Settings.ofValue s.environment file v)

def openSettings (name : Option String) (readers : Settings.Readers := .standard) : Action Nat := do
  addSettings (← readSettings name readers)

/-- Sets up the journal as settings say. -/
def applyLogging (s : Settings) : Action Unit := do
  let file := if s.fileLogging.truthy then s.logFile else .none
  setUpJournal s.level file

/-- Reads settings and sets up the journal as they say. -/
def loadSettings (name : Option String) : Action Nat := do
  let s ← readSettings name
  applyLogging s
  addSettings s

/-- The settings in use, read now if there are none yet. -/
def currentSettings : Action Nat := do
  match (← get).current with
  | some place => return place
  | none =>
    let place ← openSettings none
    modify fun s => { s with current := some place }
    return place

def useSettings (place : Option Nat) : Action Unit := modify fun s => { s with current := place }

def assign (place : Nat) (part field : String) (v : Value) : Action Unit := do
  setSettings place ((← settingsAt place).assign part field v)

/-- Saves settings to their file. -/
def saveSettings (place : Nat) : Action Unit := do
  let t ← settingsAt place
  let s ← get
  set { s with files := ← MonadExcept.ofExcept (t.save s.files) }
  record .settings .info ("Configuration saved to " ++ t.file.text)

/-- The options of a run that settings give; missing parts are shown if the journal takes everything. -/
def optionsOf (s : Settings) : Except Fault Options := do
  let level ← Journal.upperText s.level
  return {
    defaultTarget := s.defaultTarget
    templateDir := s.templateDir
    escapeMode := s.escapeMode
    trimBlocks := s.trimBlocks
    lstripBlocks := s.lstripBlocks
    keepTrailingNewline := s.keepTrailingNewline
    debugMode := .bool (level == "DEBUG") }

/-- The options that the given settings give, or those in use. -/
def settingsOptions (place : Option Nat) : Action Options := do
  let place ← match place with
    | some place => pure place
    | none => currentSettings
  MonadExcept.ofExcept (optionsOf (← settingsAt place))

end Emission.Session
