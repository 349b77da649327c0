import Emission.Template.ParseFault
import Emission.Text.Hex
import Emission.Text.Utf8
import Emission.Value.Display
import Emission.Value.Misuse

/-!
# Faults

Every way in which an operation of this library fails, and the message of each.
-/

namespace Emission

/-! ## Error reports -/

/-- A message with named details in order, as it is shown to a user. -/
structure Report where
  message : String
  details : List (Value × Value)
  deriving Inhabited

namespace Report

/-- The message, followed by the details in brackets if there are any. -/
def text (r : Report) : String :=
  if r.details.isEmpty then r.message
  else
    r.message ++ " (" ++
      Value.commaSeparated (r.details.map fun d => d.1.display ++ "=" ++ d.2.display) ++ ")"

/-- A template group could not be built. -/
def groupFailure (target reason : String) (template : Option String) : Report where
  message := "Failed to construct template group for target '" ++ target ++ "'" ++
    (if reason = "" then "" else ": " ++ reason)
  details := (.text "target", .text target) ::
    (template.map fun t => (Value.text "template", Value.text t)).toList

/-- No target has this name; `available` are the names there are, in ascending order. -/
def unknownTarget (target : String) (available : List String) : Report where
  message := "Unknown target '" ++ target ++ "'" ++
    (if available.isEmpty then ""
      else "; available targets: " ++ Value.commaSeparated available)
  details := [(.text "target", .text target)]

end Report

/-! ## Faults -/

/-- What kind of error a template language raises: it refuses a text, or something else goes wrong with a template,
or it is an error of any other kind. -/
inductive ErrorFamily
  | refusal | template | other
  deriving DecidableEq, Repr

inductive Fault
  -- Targets
  | emptyTargetName
  | emptyTargetVersion
  | literalLimitNotPositive
  | encodingWidthNotPositive
  | encodingWidthBeyondLimit
  | unknownTarget (name : String) (available : List String)
  -- Code points and segments
  | codePointNotInteger (kind : String)
  | codePointOutOfRange (n : Int)
  | segmentSizeNotPositive (size : Int)
  | negativeEntryCount (count : Int)
  -- Generation runs
  | emptyDefaultTarget
  | emptyEscapeMode
  | emptyTemplateDir
  | grammarRequired
  | emptyGrammar
  -- Templates
  | groupFailed (target reason : String) (template : Option String)
  | noTemplate (target template : String)
  | emptyRendererMode
  | malformed (fault : Template.ParseFault)
  | unknownFilter (name : String)
  | unknownTest (name : String)
  | loopAssigned
  | missingFilter (name : String)
  | missingTest (name : String)
  | notNamespace
  | missingTemplate (name directory : String)
  /-- An error that has no other name here, by its class and message. -/
  | raised (family : ErrorFamily) (kind message : String)
  | repeatedArgument (function argument : String)
  | unexpectedArgument (function argument : String)
  -- Values
  | misuse (m : Misuse)
  -- Logging
  | unknownLevel (name : String)
  | levelNotUsable (value : String)
  -- Files
  | fileMissing (path : String)
  | isDirectory (path : String)
  | notDirectory (path : String)
  | pathTooLong (path : String)
  | nullInPath
  | noSpace
  | outOfMemory
  | undecodable (fault : Text.Utf8Fault)
  | pathExpected (kind : String)
  -- Sessions
  | noObject (place : Nat)
  deriving DecidableEq, Repr

namespace Fault

private def between (path : String) : String := ": " ++ Text.quoted path

/-- The hexadecimal form of an integer, its sign first. -/
private def signedHex (n : Int) : String :=
  (if n < 0 then "-0x" else "0x") ++ Text.hexShort n.natAbs

private def undecodableText (f : Text.Utf8Fault) : String :=
  "'utf-8' codec can't decode " ++
    (match f.bytes with
      | [b] =>
        "byte 0x" ++ .ofList (Text.hexFixed .lower 2 b.toNat) ++ " in position " ++
          toString f.position
      | bytes =>
        "bytes in position " ++ toString f.position ++ "-" ++
          toString (f.position + bytes.length - 1)) ++
    ": " ++ f.flaw.text

/-- A message that ends in an integer, if this can be written out. -/
private def endingIn (n : Int) (start : String) : String :=
  if Value.IsLegible n then start ++ toString n else Misuse.longInteger.message

def message : Fault → String
  | emptyTargetName => "Target name cannot be empty"
  | emptyTargetVersion => "Target version cannot be empty"
  | literalLimitNotPositive => "Literal length limit must be positive"
  | encodingWidthNotPositive => "Worst case encoding width must be positive"
  | encodingWidthBeyondLimit => "Encoding width cannot exceed the literal length limit"
  | unknownTarget name available => (Report.unknownTarget name available).text
  | codePointNotInteger kind => "Code point must be an int, got " ++ kind
  | codePointOutOfRange n => "Code point out of range: " ++ signedHex n
  | segmentSizeNotPositive size => endingIn size "Segment size must be at least 1, got "
  | negativeEntryCount count => endingIn count "Entry count cannot be negative, got "
  | emptyDefaultTarget => "Default target cannot be empty"
  | emptyEscapeMode => "Escape mode cannot be empty"
  | emptyTemplateDir => "Template directory cannot be an empty string"
  | grammarRequired => "Grammar name is required"
  | emptyGrammar => "Grammar name cannot be empty"
  | groupFailed target reason template => (Report.groupFailure target reason template).text
  | noTemplate target template => "Target '" ++ target ++ "' has no template '" ++ template ++ "'"
  | emptyRendererMode => "Renderer mode name cannot be empty"
  | malformed fault => fault.message
  | unknownFilter name => "No filter named " ++ Text.quoted name ++ "."
  | unknownTest name => "No test named " ++ Text.quoted name ++ "."
  | loopAssigned => "Can't assign to special loop variable in for-loop target"
  | missingFilter name => "No filter named " ++ Text.quoted name ++ " found."
  | missingTest name => "No test named " ++ Text.quoted name ++ " found."
  | notNamespace => "cannot assign attribute on non-namespace object"
  | missingTemplate name directory =>
    Text.quoted name ++ " not found in search path: " ++ Text.quoted directory
  | raised _ _ message => message
  | repeatedArgument function argument =>
    function ++ "() got multiple values for argument '" ++ argument ++ "'"
  | unexpectedArgument function argument =>
    function ++ "() got an unexpected keyword argument '" ++ argument ++ "'"
  | misuse m => m.message
  | unknownLevel name => "Unknown level: " ++ Text.quoted name
  | levelNotUsable value => "Level not an integer or a valid string: " ++ value
  | fileMissing path => "[Errno 2] No such file or directory" ++ between path
  | isDirectory path => "[Errno 21] Is a directory" ++ between path
  | notDirectory path => "[Errno 20] Not a directory" ++ between path
  | pathTooLong path => "[Errno 36] File name too long" ++ between path
  | nullInPath => "embedded null byte"
  | noSpace => "[Errno 28] No space left on device"
  | outOfMemory => ""
  | undecodable fault => undecodableText fault
  | pathExpected kind => "expected str, bytes or os.PathLike object, not " ++ kind
  | noObject place => "no object at " ++ toString place

/-- A text is refused as a template: it is malformed, or it needs what does not exist. -/
def refuses : Fault → Bool
  | malformed _ | unknownFilter _ | unknownTest _ | loopAssigned | raised .refusal .. => true
  | _ => false

/-- An error of templates, be it that a text is refused or that something goes wrong with it later. -/
def isTemplateError : Fault → Bool
  | missingFilter _ | missingTest _ | notNamespace | missingTemplate .. | misuse (.absent _)
  | raised .template .. => true
  | f => f.refuses

end Fault

instance : MonadLift (Except Misuse) (Except Fault) where
  monadLift := Except.mapError Fault.misuse

end Emission
