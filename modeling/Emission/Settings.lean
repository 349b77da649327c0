import Emission.Files
import Emission.Json.Read
import Emission.Json.Write
import Emission.Options
import Emission.Text.Case
import Emission.Yaml.Node
import Emission.Yaml.Write

/-!
# Settings

The settings of the library: how it logs, where its templates are and what it generates by default. They
are read from a file, with variables of the environment before what the file says, and written back to
it.
-/

namespace Emission

open Files (Path)

/-- The settings, with the file they belong to. What a file gives is kept as it is, whatever it is. -/
structure Settings where
  file : Path
  level : Value := .text "INFO"
  fileLogging : Value := .bool false
  logFile : Value := .text "targetkit.log"
  templateDir : Value := .none
  trimBlocks : Value := .bool true
  lstripBlocks : Value := .bool true
  keepTrailingNewline : Value := .bool true
  defaultTarget : Value := .text "Php"
  escapeMode : Value := .text "java-escape"
  deriving Inhabited, Repr

namespace Settings

/-! ## The file -/

/-- The formats of settings files. -/
inductive Format
  | json | yaml
  deriving DecidableEq, Repr

/-- The format of a file, from the end of its name in any case. -/
def formatOf (p : Path) : Format :=
  let suffix := Text.lower p.suffix
  if suffix = ".yaml" ∨ suffix = ".yml" then .yaml else .json

/-- What reading a text comes to. -/
inductive Reading
  | value (v : Value)
  /-- The text spells no value. -/
  | refused
  /-- Something else goes wrong while it is read. -/
  | fault (e : Fault)

/-- How texts are read, format by format. -/
abbrev Readers := Format → String → Reading

/-- A reader that refuses the texts it can make nothing of. -/
def Reading.ofOption : Option Value → Reading
  | some v => .value v
  | none => .refused

/-- The readers of this library. -/
def Readers.standard : Readers
  | .json, s => .ofOption (Json.read? s)
  | .yaml, s => .ofOption (Yaml.read? s)

def Format.write : Format → Value → String
  | json, v => Json.write v
  | yaml, v => Yaml.write v

/-- The directory where settings are looked for if no file is named. -/
def defaultDir : String := "defaults"

/-- The files that are looked for if none is named, in order. -/
def defaultNames : List String :=
  [defaultDir ++ "/targetkit_config.yaml", defaultDir ++ "/targetkit_config.json"]

/-- The file of settings if none is named: the first one that is there, or else the last one. -/
def defaultFile (fs : Files) : Path :=
  let paths := defaultNames.map Path.ofText
  ((paths.find? fun p => (fs.holds p).toOption.getD false).or paths.getLast?).getD default

/-- The file of settings; an empty name names none. -/
def fileOf (fs : Files) (name : Option String) : Path :=
  match name with
  | none | some "" => defaultFile fs
  | some name => Path.ofText name

/-- What reading a file came to. -/
inductive Loaded
  | missing
  /-- The file cannot be read, or its text spells no value. -/
  | broken
  | read (v : Value)
  /-- Something went wrong that nothing makes up for. -/
  | failed (e : Fault)

/-- What the text of a file comes to. -/
def Reading.loaded : Reading → Loaded
  | value v => .read v
  | refused => .broken
  | fault e => .failed e

/-- The value in a file. That a file cannot be read is made up for, but not that the memory is full. -/
def load (fs : Files) (file : Path) (readers : Readers := .standard) : Loaded :=
  match fs.holds file with
  | .error e => .failed e
  | .ok false => .missing
  | .ok true =>
    match fs.read file with
    | .error .outOfMemory => .failed .outOfMemory
    | .error _ => .broken
    | .ok s => (readers (formatOf file) s).loaded

/-! ## The sections -/

/-- Variables of the environment. -/
abbrev Environment := List (String × String)

/-- The names of the variables that count. -/
def watchedNames : List String :=
  ["TARGETKIT_LOG_LEVEL", "TARGETKIT_TEMPLATE_DIR", "TARGETKIT_DEFAULT_TARGET"]

/-- A variable that is set and not empty. -/
def override? (env : Environment) (name : String) : Option Value :=
  match env.lookup name with
  | none | some "" => none
  | some s => some (.text s)

/-- The entries of a dictionary; no other value has any. -/
def entriesOf : Value → Except Fault (List (Value × Value))
  | .dict es => .ok es
  | v => .error (.misuse (.noAttribute v.kind "get"))

/-- A section of a document; one that is not there is empty. -/
def section? (document : List (Value × Value)) (name : String) : Except Fault (List (Value × Value)) :=
  entriesOf ((Value.findText? name document).getD (.dict []))

/-- The value under a key, or a default. -/
def entry (es : List (Value × Value)) (key : String) (default : Value) : Value :=
  (Value.findText? key es).getD default

/-- Settings from the value in a file. -/
def ofValue (env : Environment) (file : Path) (v : Value) : Except Fault Settings := do
  let document ← entriesOf (if v.truthy then v else .dict [])
  let base : Settings := { file }
  let logging ← section? document "logging"
  let templates ← section? document "templates"
  let generation ← section? document "generation"
  return {
    file
    level := (override? env "TARGETKIT_LOG_LEVEL").getD (entry logging "level" base.level)
    fileLogging := entry logging "enable_file_logging" base.fileLogging
    logFile := entry logging "log_file" base.logFile
    templateDir :=
      (override? env "TARGETKIT_TEMPLATE_DIR").getD (entry templates "template_dir" base.templateDir)
    trimBlocks := entry templates "trim_blocks" base.trimBlocks
    lstripBlocks := entry templates "lstrip_blocks" base.lstripBlocks
    keepTrailingNewline := entry templates "keep_trailing_newline" base.keepTrailingNewline
    defaultTarget :=
      (override? env "TARGETKIT_DEFAULT_TARGET").getD
        (entry generation "default_target" base.defaultTarget)
    escapeMode := entry generation "escape_mode" base.escapeMode }

/-- Settings as they are written to a file. -/
def toValue (s : Settings) : Value :=
  .dict [
    (.text "version", .text "1.0"),
    (.text "description", .text "targetkit configuration"),
    (.text "logging", .dict [
      (.text "level", s.level),
      (.text "enable_file_logging", s.fileLogging),
      (.text "log_file", s.logFile)]),
    (.text "templates", .dict [
      (.text "template_dir", s.templateDir),
      (.text "trim_blocks", s.trimBlocks),
      (.text "lstrip_blocks", s.lstripBlocks),
      (.text "keep_trailing_newline", s.keepTrailingNewline)]),
    (.text "generation", .dict [
      (.text "default_target", s.defaultTarget),
      (.text "escape_mode", s.escapeMode)])]

/-- The text that is saved. -/
def fileText (s : Settings) : String := (formatOf s.file).write s.toValue

/-- Writes settings to their file. -/
def save (fs : Files) (s : Settings) : Except Fault Files := fs.write s.file (.replace (.text s.fileText))

/-! ## Fields -/

/-- Sets a field of a section; other names name nothing. -/
def assign (s : Settings) (part field : String) (v : Value) : Settings :=
  match part, field with
  | "logging", "level" => { s with level := v }
  | "logging", "enable_file_logging" => { s with fileLogging := v }
  | "logging", "log_file" => { s with logFile := v }
  | "templates", "template_dir" => { s with templateDir := v }
  | "templates", "trim_blocks" => { s with trimBlocks := v }
  | "templates", "lstrip_blocks" => { s with lstripBlocks := v }
  | "templates", "keep_trailing_newline" => { s with keepTrailingNewline := v }
  | "generation", "default_target" => { s with defaultTarget := v }
  | "generation", "escape_mode" => { s with escapeMode := v }
  | _, _ => s

end Settings

end Emission
