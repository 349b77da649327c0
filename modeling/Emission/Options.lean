import Emission.Fault
import Emission.Value.Equal

/-!
# Generation options

The options of one generation run. Options read from a dictionary have a normal form: two texts, a text
or nothing, and four truth values. Options set directly keep whatever value they are given.
-/

namespace Emission

/-- The options of a run, in the order in which they are listed. -/
structure Options where
  defaultTarget : Value := .text "Php"
  /-- The directory that holds a directory of templates for each target; nothing for those that come
  with the library. -/
  templateDir : Value := .none
  /-- The mode in which templates escape texts. -/
  escapeMode : Value := .text "java-escape"
  trimBlocks : Value := .bool true
  lstripBlocks : Value := .bool true
  keepTrailingNewline : Value := .bool true
  debugMode : Value := .bool false
  deriving Inhabited

namespace Options

/-- The names of the options with their values. -/
def toEntries (o : Options) : List (Value × Value) :=
  [(.text "default_target", o.defaultTarget),
   (.text "template_dir", o.templateDir),
   (.text "escape_mode", o.escapeMode),
   (.text "trim_blocks", o.trimBlocks),
   (.text "lstrip_blocks", o.lstripBlocks),
   (.text "keep_trailing_newline", o.keepTrailingNewline),
   (.text "debug_mode", o.debugMode)]

def asText (v : Value) : Value := .text v.display

/-- Text, unless it is nothing. -/
def asTextOrNone : Value → Value
  | .none => .none
  | v => asText v

def asTruth (v : Value) : Value := .bool v.truthy

/-- The value under a key, changed by `f`, or a default. -/
def field (entries : List (Value × Value)) (key : String) (f : Value → Value) (default : Value) :
    Value :=
  ((Value.findText? key entries).map f).getD default

/-- Options from the entries of a dictionary: each value is taken as text or truth value, what is not
there has its default and other keys are passed over. -/
def ofEntries (entries : List (Value × Value)) : Options where
  defaultTarget := field entries "default_target" asText (.text "Php")
  templateDir := field entries "template_dir" asTextOrNone .none
  escapeMode := field entries "escape_mode" asText (.text "java-escape")
  trimBlocks := field entries "trim_blocks" asTruth (.bool true)
  lstripBlocks := field entries "lstrip_blocks" asTruth (.bool true)
  keepTrailingNewline := field entries "keep_trailing_newline" asTruth (.bool true)
  debugMode := field entries "debug_mode" asTruth (.bool false)

/-- The options that are texts. -/
def textNames : List String := ["default_target", "template_dir", "escape_mode"]

/-- Fails if a value is there that cannot be written out. -/
def checkText : Option Value → Except Misuse Unit
  | some v => v.shown.map fun _ => ()
  | none => .ok ()

/-- Options from a dictionary, if the values of the options that are texts can be written out. -/
def fromDictionary (entries : List (Value × Value)) : Except Misuse Options := do
  textNames.forM fun name => checkText (Value.findText? name entries)
  return ofEntries entries

/-- The names of the options. -/
def names : List String :=
  ["default_target", "template_dir", "escape_mode", "trim_blocks", "lstrip_blocks",
    "keep_trailing_newline", "debug_mode"]

/-- Options whose values are those of the entries as they are; there are no other options. -/
def exact (entries : List (Value × Value)) : Except Fault Options :=
  match entries.find? fun e => !(names.map Value.text).any e.1.same with
  | some e => .error (.unexpectedArgument "GenerationConfig.__init__" e.1.display)
  | none =>
    .ok {
      defaultTarget := field entries "default_target" id (.text "Php")
      templateDir := field entries "template_dir" id .none
      escapeMode := field entries "escape_mode" id (.text "java-escape")
      trimBlocks := field entries "trim_blocks" id (.bool true)
      lstripBlocks := field entries "lstrip_blocks" id (.bool true)
      keepTrailingNewline := field entries "keep_trailing_newline" id (.bool true)
      debugMode := field entries "debug_mode" id (.bool false) }

/-- The same options, field by field. -/
def same (o p : Options) : Bool :=
  Value.sameItems (o.toEntries.map (·.2)) (p.toEntries.map (·.2))

/-- A target and an escape mode are needed; a template directory may be missing but not empty. -/
def validate (o : Options) : Except Fault Unit :=
  if !o.defaultTarget.truthy then .error .emptyDefaultTarget
  else if !o.escapeMode.truthy then .error .emptyEscapeMode
  else if !o.templateDir.isNone && !o.templateDir.truthy then .error .emptyTemplateDir
  else .ok ()

end Options

end Emission
