import Emission.Entries
import Emission.Files
import Emission.Template.Engine

/-!
# Template groups

The templates of one target, all compiled when the group is made, with the renderers and names that are
registered later. A group is made from the files of a directory; the first file that cannot be compiled,
in ascending order of the names, is the one to blame.
-/

namespace Emission.Template

open Files (Path)

/-- How a group is made. The options may be any values; what counts is whether they are true. -/
structure GroupOptions where
  trimBlocks : Value := .bool true
  lstripBlocks : Value := .bool true
  keepTrailingNewline : Value := .bool true
  showAbsent : Value := .bool false
  deriving Inhabited, Repr

/-- The layout that the options ask for. A list or dictionary is no option. -/
def GroupOptions.layout (o : GroupOptions) : Except Misuse Layout := do
  Value.checkKey o.trimBlocks
  Value.checkKey o.lstripBlocks
  Value.checkKey o.keepTrailingNewline
  return ⟨o.trimBlocks.truthy, o.lstripBlocks.truthy, o.keepTrailingNewline.truthy⟩

/-- The compiled templates of a target. -/
structure Group (E : Engine := Engine.standard) where
  name : String
  dir : Path
  layout : Layout
  /-- By name, in ascending order. -/
  programs : List (String × E.Code)
  surroundings : Surroundings

namespace Group

variable {E : Engine}

/-- A file is a template if the text after the last dot of its path is `j2`. -/
def isTemplateName (name : String) : Bool :=
  let cs := name.toList.reverse
  cs.contains '.' && cs.takeWhile (· ≠ '.') = ['2', 'j']

/-- The names of the templates in a directory. -/
def templateNames (fs : Files) (dir : Path) : List String := (fs.filesBelow dir).filter isTemplateName

/-- The text of a template. -/
def source (fs : Files) (dir : Path) (name : String) : Except Fault String :=
  match fs.findAs (Files.joinText dir.text name) (dir.append name) with
  | .file _ c => c.read.mapError .undecodable
  | _ => .error (.missingTemplate name dir.text)

/-- What the surroundings of a group are when it is made. -/
def initialSurroundings (o : GroupOptions) : Surroundings where
  showAbsent := o.showAbsent.truthy

/-- One template of a group, compiled. -/
def compileTemplate (E : Engine) (fs : Files) (dir : Path) (o : GroupOptions) (name : String) :
    Except Fault E.Code := do
  let text ← source fs dir name
  let layout ← (o.layout : Except Misuse Layout)
  E.compile (initialSurroundings o) layout (some name) text

/-- What the fault of one template means for the group: an error of templates is told as a failure of the group. -/
def blame (target template : String) (f : Fault) : Fault :=
  if f.isTemplateError then .groupFailed target f.message (some template) else f

/-- One template of a group under its name, or what its fault means for the group. -/
def entry (E : Engine) (fs : Files) (target : String) (dir : Path) (o : GroupOptions) (name : String) :
    Except Fault (String × E.Code) :=
  ((compileTemplate E fs dir o name).mapError (blame target name)).map (name, ·)

/-- The group of the templates in a directory. -/
def ofDirectory (fs : Files) (name : String) (dir : Path) (o : GroupOptions) : Except Fault (Group E) := do
  if !(← fs.isDirectory dir) then
    throw (Fault.groupFailed name ("template directory not found: " ++ dir.text) none)
  let names := templateNames fs dir
  if names.isEmpty then throw (Fault.groupFailed name ("no templates in " ++ dir.text) none)
  let programs ← names.mapM (entry E fs name dir o)
  let layout ← (o.layout : Except Misuse Layout)
  return { name, dir, layout, programs, surroundings := initialSurroundings o }

/-- The directory of the templates that come with the library for a target. -/
def shippedDir (target : String) : Path := Files.Path.append ⟨.shipped, []⟩ target

def size (g : Group E) : Nat := g.programs.length

def templates (g : Group E) : List String := g.programs.map (·.1)

/-- The modes of the renderers in ascending order. -/
def modes (g : Group E) : List String := Text.sorted g.surroundings.renderers.modes

def text (g : Group E) : String :=
  "TemplateGroup(name=" ++ Text.quoted g.name ++ ", templates=" ++ toString g.size ++
    ", renderers=[" ++ Value.commaSeparated (g.modes.map Text.quoted) ++ "])"

/-! ## Registering -/

def registerRenderer (g : Group E) (mode : String) (f : Escape.Renderer) : Except Fault (Group E) :=
  if mode = "" then .error .emptyRendererMode
  else
    .ok { g with
      surroundings := { g.surroundings with renderers := Entries.put mode f g.surroundings.renderers } }

/-- Registers renderers one after the other. -/
def registerAll (g : Group E) (rs : Escape.Renderers) : Except Fault (Group E) :=
  rs.foldlM (fun g (mode, f) => g.registerRenderer mode f) g

/-- Makes a value known to every template of the group. -/
def setGlobal (g : Group E) (name : String) (v : Value) : Group E :=
  { g with surroundings := { g.surroundings with globals := Entries.put name v g.surroundings.globals } }

/-! ## Using the templates -/

/-- A value under a mode of the group. -/
def format (g : Group E) (v : Value) (mode : String) : Except Misuse String := g.surroundings.renderers.format v mode

/-- The full name of a template, with its suffix. -/
def fullName (name : String) : String := if name.endsWith ".j2" then name else name ++ ".j2"

/-- A template by its name, with or without suffix. -/
def find (g : Group E) (name : String) : Except Fault (String × E.Code) :=
  let full := fullName name
  match g.programs.lookup full with
  | some p => .ok (full, p)
  | none => .error (.noTemplate g.name full)

/-- No value may be named like an argument of the function it is passed to. -/
def checkNames (function : String) (arguments : List String) (values : List (String × Value)) :
    Except Fault Unit :=
  match values.find? fun v => arguments.contains v.1 with
  | some v => .error (.repeatedArgument function v.1)
  | none => .ok ()

/-- A template rendered with the given values. -/
def render (g : Group E) (name : String) (values : List (String × Value)) : Except Fault String := do
  checkNames "TemplateGroup.render" ["self", "template_name"] values
  let (full, code) ← g.find name
  E.run code { surroundings := g.surroundings, values, template := some full }

/-- A text rendered in the group, under the name of a template or under none. -/
def renderAs (g : Group E) (template : Option String) (source : String) (values : List (String × Value)) :
    Except Fault String := E.render g.surroundings g.layout template source values

/-- A text rendered like a template of the group that has no name. -/
def renderText (g : Group E) (source : String) (values : List (String × Value)) :
    Except Fault String := do
  checkNames "TemplateGroup.render_string" ["self", "source"] values
  g.renderAs none source values

/-- What is wrong with a text as a template of the group, as far as reading it tells. -/
def validate (g : Group E) (source : String) : Except Fault (Option Fault) := E.validate g.layout source

end Group

/-- What is wrong with a text as a template of no group. -/
def validateSource (source : String) : Except Fault (Option Fault) := Engine.standard.validate .plain source

end Emission.Template
