import Emission.Files
import Emission.Text.Case
import Emission.Value.Display

/-!
# The journal

Records of what the library does. Records that matter enough go to the console and, if one is set up, to
a file. Handlers are replaced one by one when the journal is set up, and one that could not write what it was given
fails when it is closed.
-/

namespace Emission

/-- How much a record matters, by any integer. -/
structure Severity where
  rank : Int
  deriving DecidableEq, Repr

namespace Severity

def debug : Severity := ⟨10⟩

def info : Severity := ⟨20⟩

def warning : Severity := ⟨30⟩

def error : Severity := ⟨40⟩

def name (s : Severity) : String :=
  match s.rank with
  | 0 => "NOTSET"
  | 10 => "DEBUG"
  | 20 => "INFO"
  | 30 => "WARNING"
  | 40 => "ERROR"
  | 50 => "CRITICAL"
  | n => "Level " ++ toString n

end Severity

namespace Journal

open Files (Path)

/-- What a handler of a file writes to. -/
inductive Stream
  /-- The file at its path. -/
  | attached
  /-- A file that was removed. -/
  | detached
  /-- A device that is always full; `pending` says that there is something it did not take. -/
  | full (pending : Bool)
  deriving DecidableEq, Repr

/-- Where records go. -/
inductive Sink
  | console
  | file (path : Path) (stream : Stream)
  deriving DecidableEq, Repr

/-- A sink and the rank that a record needs to get there. -/
structure Handler where
  sink : Sink
  level : Nat
  deriving DecidableEq, Repr

/-- There is something that the handler could not write. -/
def Handler.isStuck (h : Handler) : Bool :=
  match h.sink with
  | .file _ (.full pending) => pending
  | _ => false

end Journal

/-- What is recorded and where it goes. -/
structure Journal where
  level : Nat
  handlers : List Journal.Handler
  /-- Records go to the journal of the whole program as well. -/
  propagates : Bool
  /-- What was written to the console since it was last looked at. -/
  console : String
  deriving DecidableEq, Repr

namespace Journal

open Files (Path)

/-! ## Levels -/

/-- The level of a name in upper case. Two names stand for something that is no level; any other name is
taken for that of the standard level. -/
def levelNamed (name : String) : Except Fault Nat :=
  match name with
  | "CRITICAL" | "FATAL" => .ok 50
  | "ERROR" => .ok 40
  | "WARNING" | "WARN" => .ok 30
  | "INFO" => .ok 20
  | "DEBUG" => .ok 10
  | "NOTSET" => .ok 0
  | "BASIC_FORMAT" => .error (.unknownLevel "%(levelname)s:%(name)s:%(message)s")
  | "_STYLES" =>
    .error (.levelNotUsable <|
      "\x7b'%': (<class 'logging.PercentStyle'>, '%(levelname)s:%(name)s:%(message)s'), " ++
        "'\x7b': (<class 'logging.StrFormatStyle'>, " ++
        "'\x7blevelname\x7d:\x7bname\x7d:\x7bmessage\x7d'), " ++
        "'$': (<class 'logging.StringTemplateStyle'>, " ++
        "'$\x7blevelname\x7d:$\x7bname\x7d:$\x7bmessage\x7d')\x7d")
  | _ => .ok 20

/-- A text in upper case; no other value has one. -/
def upperText : Value → Except Fault String
  | .text s | .markup s => .ok (Text.upper s)
  | v => .error (.misuse (.noAttribute v.kind "upper"))

/-- The level that a value names, in any case. -/
def levelOf (v : Value) : Except Fault Nat := do levelNamed (← upperText v)

/-- The rank that a record needs; without a level of its own the journal takes that of warnings. -/
def threshold (j : Journal) : Int := if j.level = 0 then Severity.warning.rank else j.level

/-! ## Recording -/

/-- The full name of a component in records. -/
def componentName (name : String) : String :=
  if name = "targetkit" ∨ name.startsWith "targetkit." then name else "targetkit." ++ name

/-- A record as it is written. -/
def line (component : String) (s : Severity) (message : String) : String :=
  componentName component ++ " - " ++ s.name ++ " - " ++ message ++ "\n"

/-- What a handler does with a written record: the handler after that, what it shows on the console, and the files. -/
def Handler.take (rank : Int) (text : String) (h : Handler) (fs : Files) : Handler × String × Files :=
  if rank < h.level then (h, "", fs)
  else
    match h.sink with
    | .console => (h, text, fs)
    | .file _ .detached => (h, "", fs)
    | .file path (.full _) => ({ h with sink := .file path (.full true) }, "", fs)
    | .file path .attached =>
      match fs.write path (.extend text) with
      | .ok fs => (h, "", fs)
      | .error _ => (h, "", fs)

/-- What handlers do with a written record, one after the other. -/
def takeAll (rank : Int) (text : String) : List Handler → Files → List Handler × String × Files
  | [], fs => ([], "", fs)
  | h :: rest, fs =>
    let (h, shown, fs) := h.take rank text fs
    let (rest, more, fs) := takeAll rank text rest fs
    (h :: rest, shown ++ more, fs)

/-- Records a message of a component. Without any handler, a message that matters as much as a warning is shown
bare. -/
def record (j : Journal) (fs : Files) (component : String) (s : Severity) (message : String) :
    Journal × Files :=
  if s.rank < j.threshold then (j, fs)
  else if j.handlers.isEmpty then
    ({ j with console := j.console ++ if Severity.warning.rank ≤ s.rank then message ++ "\n" else "" }, fs)
  else
    let (handlers, shown, fs) := takeAll s.rank (line component s message) j.handlers fs
    ({ j with handlers, console := j.console ++ shown }, fs)

/-- What the console shows since it was last looked at, and the journal after that. -/
def takeConsole (j : Journal) : String × Journal := (j.console, { j with console := "" })

/-- Handlers of files that are gone write nowhere. -/
def detach (j : Journal) (fs : Files) : Journal :=
  { j with handlers := j.handlers.map fun h =>
      match h.sink with
      | .file path .attached =>
        match fs.find path with
        | .file .. => h
        | _ => { h with sink := .file path .detached }
      | _ => h }

/-! ## Setting up -/

/-- The file that a value names, if it is to be used at all. -/
def fileOf? (v : Value) : Except Fault (Option Path) :=
  if !v.truthy then .ok none
  else
    match v with
    | .text s => .ok (some (Path.ofText s).flat.absolute)
    | v => .error (.pathExpected v.kind)

/-- Opens a file for records. -/
def openFile (fs : Files) (path : Path) : Except Fault (Stream × Files) := do
  let opened ← fs.write path (.extend "")
  match fs.find path with
  | .full _ => return (.full false, opened)
  | _ => return (.attached, opened)

/-- Removes handlers and closes them, one after the other. One that is stuck is gone when it fails, and those behind
it stay. -/
def closeAll : List Handler → Except Fault Unit × List Handler
  | [] => (.ok (), [])
  | h :: rest => if h.isStuck then (.error .noSpace, rest) else closeAll rest

/-- Sets the level and replaces the handlers: first comes the console, then the file. A level that is
none changes nothing; a file that cannot be opened leaves the console alone. -/
def setup (j : Journal) (fs : Files) (level file : Value) : Except Fault Unit × Journal × Files :=
  match levelOf level with
  | .error e => (.error e, j, fs)
  | .ok n =>
    match closeAll j.handlers with
    | (.error e, rest) => (.error e, { j with level := n, handlers := rest }, fs)
    | (.ok (), _) =>
      let j := { j with level := n, handlers := [⟨.console, n⟩] }
      match fileOf? file with
      | .error e => (.error e, j, fs)
      | .ok none => (.ok (), { j with propagates := false }, fs)
      | .ok (some path) =>
        match openFile fs path with
        | .error e => (.error e, j, fs)
        | .ok (stream, fs) =>
          (.ok (), { j with handlers := j.handlers ++ [⟨.file path stream, n⟩], propagates := false }, fs)

/-- The journal at the start: the console shows what matters as much as an information. -/
def initial : Journal where
  level := 20
  handlers := [⟨.console, 20⟩]
  propagates := false
  console := ""

/-! ## Events -/

/-- The events that components report. -/
inductive Event
  | groupLoaded (target count : Value)
  | cacheHit (target : Value)
  | cacheMiss (target : Value)
  | collision (target symbol : Value)
  | registered (target version : Value)

namespace Event

private def single (v : Value) : String := "'" ++ v.display ++ "'"

def severity : Event → Severity
  | groupLoaded .. => .info
  | _ => .debug

def message : Event → String
  | groupLoaded target count =>
    "Loaded template group for target " ++ single target ++ " (" ++ count.display ++ " templates)"
  | cacheHit target => "Template cache hit for target " ++ single target
  | cacheMiss target => "Template cache miss for target " ++ single target
  | collision target symbol =>
    "Symbol " ++ single symbol ++ " collides with a reserved word of target " ++ single target
  | registered target version =>
    "Registered target " ++ single target ++ " (version " ++ version.display ++ ")"

end Event

end Journal

end Emission
