import Emission.Template.ParseFault

/-!
# Template tokens

What the text of a template consists of: plain text, the borders of tags, and the words, literals and
marks inside them.
-/

namespace Emission.Template

/-- The marks of template expressions. -/
inductive Mark
  | plus | minus | star | slash | doubleSlash | percent | doubleStar | tilde
  | lparen | rparen | lbracket | rbracket | lbrace | rbrace
  | equal | unequal | less | lessOrEqual | greater | greaterOrEqual
  | assign | dot | colon | pipe | comma | semicolon
  deriving DecidableEq, Repr

def Mark.text : Mark → String
  | plus => "+"
  | minus => "-"
  | star => "*"
  | slash => "/"
  | doubleSlash => "//"
  | percent => "%"
  | doubleStar => "**"
  | tilde => "~"
  | lparen => "("
  | rparen => ")"
  | lbracket => "["
  | rbracket => "]"
  | lbrace => "\x7b"
  | rbrace => "\x7d"
  | equal => "=="
  | unequal => "!="
  | less => "<"
  | lessOrEqual => "<="
  | greater => ">"
  | greaterOrEqual => ">="
  | assign => "="
  | dot => "."
  | colon => ":"
  | pipe => "|"
  | comma => ","
  | semicolon => ";"

inductive Token
  | data (s : String)
  | printBegin
  | printEnd
  | blockBegin
  | blockEnd
  | name (s : String)
  | text (s : String)
  | int (n : Nat)
  | float (x : Float)
  | mark (m : Mark)
  /-- Where reading tokens failed; nothing follows it. -/
  | broken (fault : ParseFault)
  deriving Repr

/-- How messages describe a token. -/
def Token.describe : Token → String
  | data _ => "template data / text"
  | printBegin => "begin of print statement"
  | printEnd => "end of print statement"
  | blockBegin => "begin of statement block"
  | blockEnd => "end of statement block"
  | name s => s
  | text _ => "string"
  | int _ => "integer"
  | float _ => "float"
  | mark m => m.text
  | broken _ => ""

/-- A token and the line it starts on. -/
structure Located where
  token : Token
  line : Nat
  deriving Repr

/-- How the white space around blocks is treated. -/
structure Layout where
  /-- The line feed after a block goes with it. -/
  trimBlocks : Bool
  /-- So do the blanks before a block that starts its line. -/
  lstripBlocks : Bool
  keepTrailingNewline : Bool
  deriving DecidableEq, Repr

/-- White space stays as it is, but for one line feed at the end. -/
def Layout.plain : Layout := ⟨false, false, false⟩

end Emission.Template
