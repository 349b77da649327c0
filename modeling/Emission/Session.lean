import Emission.Journal
import Emission.Run
import Emission.Settings
import Emission.Store
import Emission.Target.Catalog
import Emission.Template.Cache
import Emission.Template.Group
import Emission.Template.Shipped

/-!
# Sessions

All that the library keeps between two calls: files, variables of the environment, the journal, the
catalog of targets, and the objects that were made. An action may change all of it, and what it has
changed stays when it fails.
-/

namespace Emission

/-- The state of a session. Objects refer to each other by their places in the stores. -/
structure Session where
  files : Files
  environment : Settings.Environment
  journal : Journal
  targets : Store Target
  catalog : Target.Catalog
  caches : Store (Template.Cache Nat)
  runs : Store Run
  drafts : Store Run.Draft
  groups : Store Template.Group
  settings : Store Settings
  /-- The settings in use where none are given. -/
  current : Option Nat

/-- An action in a session. -/
abbrev Action (α : Type) := ExceptT Fault (StateM Session) α

namespace Session

/-- A session at its start, with the PHP target in the catalog. -/
def initial : Session where
  files := Template.Shipped.files
  environment := []
  journal := .initial
  targets := ⟨[Target.Php.target]⟩
  catalog := (Target.Catalog.register {} 0 Target.Php.target false).2
  caches := {}
  runs := {}
  drafts := {}
  groups := {}
  settings := {}
  current := none

/-- Runs an action. -/
def perform {α : Type} (s : Session) (a : Action α) : Except Fault α × Session := a.run.run s

/-- What an action comes to, without failing. -/
def attempt {α : Type} (a : Action α) : Action (Except Fault α) :=
  ExceptT.mk (a.run.map .ok)

/-! ## Objects -/

/-- The object at a place of a store. -/
def fetch {α : Type} (store : Session → Store α) (place : Nat) : Action α := do
  match (store (← get)).get? place with
  | some x => return x
  | none => throw (Fault.noObject place)

def target (place : Nat) : Action Target := fetch Session.targets place

def cache (place : Nat) : Action (Template.Cache Nat) := fetch Session.caches place

def run (place : Nat) : Action Run := fetch Session.runs place

def draft (place : Nat) : Action Run.Draft := fetch Session.drafts place

def group (place : Nat) : Action Template.Group := fetch Session.groups place

def settingsAt (place : Nat) : Action Settings := fetch Session.settings place

def setCache (place : Nat) (c : Template.Cache Nat) : Action Unit :=
  modify fun s => { s with caches := s.caches.set place c }

def setGroup (place : Nat) (g : Template.Group) : Action Unit :=
  modify fun s => { s with groups := s.groups.set place g }

def setDraft (place : Nat) (d : Run.Draft) : Action Unit :=
  modify fun s => { s with drafts := s.drafts.set place d }

def setSettings (place : Nat) (t : Settings) : Action Unit :=
  modify fun s => { s with settings := s.settings.set place t }

def addTarget (t : Target) : Action Nat :=
  modifyGet fun s => let (i, targets) := s.targets.add t; (i, { s with targets })

def addCache (c : Template.Cache Nat) : Action Nat :=
  modifyGet fun s => let (i, caches) := s.caches.add c; (i, { s with caches })

def addRun (r : Run) : Action Nat :=
  modifyGet fun s => let (i, runs) := s.runs.add r; (i, { s with runs })

def addDraft (d : Run.Draft) : Action Nat :=
  modifyGet fun s => let (i, drafts) := s.drafts.add d; (i, { s with drafts })

def addGroup (g : Template.Group) : Action Nat :=
  modifyGet fun s => let (i, groups) := s.groups.add g; (i, { s with groups })

def addSettings (t : Settings) : Action Nat :=
  modifyGet fun s => let (i, settings) := s.settings.add t; (i, { s with settings })

/-! ## The journal -/

/-- The components that keep records. -/
inductive Component
  | cache | templates | catalog | targets | settings
  deriving DecidableEq, Repr

def Component.name : Component → String
  | cache => "targetkit.codegen.templates.cache"
  | templates => "targetkit.codegen.templates.renderer"
  | catalog => "targetkit.codegen.targets.registry"
  | targets => "targetkit.codegen.targets.adapter"
  | settings => "targetkit.utils.config"

/-- Records a message under the name of a component. -/
def recordAs (component : String) (severity : Severity) (message : String) : Action Unit :=
  modify fun s =>
    let (journal, files) := s.journal.record s.files component severity message
    { s with journal, files }

def record (component : Component) (severity : Severity) (message : String) : Action Unit :=
  recordAs component.name severity message

/-- Records a message at any level. One that is too long to be written out is refused where it would be recorded. -/
def logAs (component : String) (rank : Int) (message : String) : Action Unit := do
  if (← get).journal.threshold ≤ rank ∧ ¬ Value.IsLegible rank then throw (Fault.misuse .longInteger)
  recordAs component ⟨rank⟩ message

/-- Reports an event under the name of a component. -/
def reportAs (component : String) (e : Journal.Event) : Action Unit :=
  recordAs component e.severity e.message

def report (component : Component) (e : Journal.Event) : Action Unit := reportAs component.name e

/-- What the console shows since it was last looked at. -/
def console : Action String :=
  modifyGet fun s => let (text, journal) := s.journal.takeConsole; (text, { s with journal })

/-- Sets up the journal. Without a level, that of the environment counts. -/
def setUpJournal (level file : Value) : Action Unit := do
  let s ← get
  let level := if level.isNone
    then .text ((s.environment.lookup "TARGETKIT_LOG_LEVEL").getD "INFO") else level
  let (result, journal, files) := s.journal.setup s.files level file
  set { s with journal, files }
  MonadExcept.ofExcept result

/-! ## Files and variables -/

open Files (Path Content)

/-- Puts a file where it is wanted, with the directories it needs. -/
def putFile (name : String) (c : Content) : Action Unit := do
  let s ← get
  set { s with files := ← MonadExcept.ofExcept (s.files.place (.ofText name) c) }

def makeDirectory (name : String) : Action Unit :=
  modify fun s => { s with files := s.files.makeDirectories (.ofText name) }

/-- Removes a file; records that went there go nowhere. -/
def removeFile (name : String) : Action Unit := do
  let s ← get
  let files ← MonadExcept.ofExcept (s.files.remove (.ofText name))
  set { s with files, journal := s.journal.detach files }

def fileText (name : String) : Action String := do
  MonadExcept.ofExcept ((← get).files.readAs name (.ofText name))

/-- Sets a variable of the environment, or removes it. -/
def setVariable (name : String) (value : Option String) : Action Unit :=
  modify fun s =>
    let others := s.environment.filter (·.1 ≠ name)
    { s with environment := others ++ (value.map (name, ·)).toList }

end Session

end Emission
