import Emission.Text.Printable

/-!
# Malformed templates

What is wrong with the text of a template, and the message of each fault.
-/

namespace Emission.Template

/-- Why a template cannot be read. Token texts are descriptions of tokens. -/
inductive ParseFault
  | unexpectedChar (c : Char) (position : Nat)
  | unexpectedCloser (found : Char)
  | wrongCloser (found expected : Char)
  | unclosedComment
  | unclosedRaw
  | badIdentifier
  | badEscape (reason : String)
  | expected (wanted found : String)
  | endsBefore (wanted : String)
  | unexpected (found : String)
  | noExpression (found : String)
  | noTagName
  | noAttributeName
  | badCall
  | chainedTests
  | notAssignable (what : String)
  /-- A tag that opens nothing and that no open block waits for. -/
  | unknownTag (name : String) (awaited : List String) (nested : Bool) (innermost : Option String)
  /-- The template ends inside a block. -/
  | unclosedBlock (awaited : List String) (innermost : Option String)
  deriving DecidableEq, Repr

namespace ParseFault

/-- Tag names joined by "or". -/
def alternatives (names : List String) : String := " or ".intercalate (names.map Text.quoted)

/-- What a reader inside open blocks was waiting for. -/
def awaiting (awaited : List String) (nested : Bool) (innermost : Option String) : List String :=
  (if awaited.isEmpty then []
    else if nested then
      ["You probably made a nesting mistake. Jinja is expecting this tag, but currently looking for " ++
        alternatives awaited ++ "."]
    else ["Jinja was looking for the following tags: " ++ alternatives awaited ++ "."]) ++
  match innermost with
  | none => []
  | some tag => ["The innermost block that needs to be closed is " ++ Text.quoted tag ++ "."]

def message : ParseFault → String
  | unexpectedChar c position =>
    "unexpected char " ++ Text.quoted (.singleton c) ++ " at " ++ toString position
  | unexpectedCloser found => "unexpected '" ++ .singleton found ++ "'"
  | wrongCloser found wanted =>
    "unexpected '" ++ .singleton found ++ "', expected '" ++ .singleton wanted ++ "'"
  | unclosedComment => "Missing end of comment tag"
  | unclosedRaw => "Missing end of raw directive"
  | badIdentifier => "Invalid character in identifier"
  | badEscape reason => reason
  | expected wanted found =>
    "expected token " ++ Text.quoted wanted ++ ", got " ++ Text.quoted found
  | endsBefore wanted => "unexpected end of template, expected " ++ Text.quoted wanted ++ "."
  | unexpected found => "unexpected " ++ Text.quoted found
  | noExpression found => "Expected an expression, got " ++ Text.quoted found
  | noTagName => "tag name expected"
  | noAttributeName => "expected name or number"
  | badCall => "invalid syntax for function call expression"
  | chainedTests => "You cannot chain multiple tests with is"
  | notAssignable what => "can't assign to " ++ Text.quoted what
  | unknownTag name awaited nested innermost =>
    " ".intercalate (("Encountered unknown tag " ++ Text.quoted name ++ ".") ::
      awaiting awaited nested innermost)
  | unclosedBlock awaited innermost =>
    " ".intercalate ("Unexpected end of template." :: awaiting awaited false innermost)

end ParseFault

end Emission.Template
