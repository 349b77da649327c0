import Emission.Template.Token.Literal
import Emission.Text.Blank
import Emission.Text.Identifier
import Emission.Text.Search

/-!
# Reading tokens

`scan` cuts the text of a template into tokens. Tags stand between `{%` and `%}`, `{{` and `}}`, `{#` and
`#}`; a sign beside a border decides what happens to the white space there.
-/

namespace Emission.Template

/-- The text that is read: newlines unified, and the last one left out unless it is kept. -/
def Layout.source (l : Layout) (s : String) : List Char :=
  let cs := Text.unifyNewlines s.toList
  if !l.keepTrailingNewline && cs.getLast? == some '\n' then cs.dropLast else cs

/-! ## Borders -/

/-- The sign beside the border of a tag. -/
inductive Sign
  | plain
  /-- Remove all white space on that side. -/
  | minus
  /-- Keep it. -/
  | plus
  deriving DecidableEq, Repr

def Sign.read : List Char → Sign × List Char
  | '-' :: rest => (.minus, rest)
  | '+' :: rest => (.plus, rest)
  | cs => (.plain, cs)

/-- What opens at a place in the text. -/
inductive Opening
  | raw (swallowed : List Char)
  | print
  | comment
  | block
  deriving DecidableEq, Repr

/-- The white space at the beginning, and the rest. -/
def spanBlank (cs : List Char) : List Char × List Char :=
  (cs.takeWhile Text.isBlank, cs.dropWhile Text.isBlank)

/-- A keyword with white space around it, up to what follows. -/
def keyword? (word : String) (cs : List Char) : Option (List Char) :=
  (Text.dropPrefix? word.toList (cs.dropWhile Text.isBlank)).map (·.dropWhile Text.isBlank)

/-- The line feed that goes with a border. -/
def trimmedNewline (trim : Bool) : List Char → List Char × List Char
  | '\n' :: rest => if trim then (['\n'], rest) else ([], '\n' :: rest)
  | cs => ([], cs)

/-- The end `x}` of a block or comment: the white space it swallows and what follows. -/
def end? (x : Char) (trim : Bool) : List Char → Option (List Char × List Char)
  | '+' :: c :: '}' :: rest => if c = x then some ([], rest) else none
  | '-' :: c :: '}' :: rest => if c = x then some (spanBlank rest) else none
  | c :: '}' :: rest => if c = x then some (trimmedNewline trim rest) else none
  | _ => none

/-- The end of a print tag. -/
def printEnd? : List Char → Option (List Char × List Char)
  | '-' :: '}' :: '}' :: rest => some (spanBlank rest)
  | '}' :: '}' :: rest => some ([], rest)
  | _ => none

/-- A tag that opens raw text, after its sign. -/
def rawBegin? (cs : List Char) : Option (List Char × List Char) :=
  match keyword? "raw" cs with
  | some ('-' :: '%' :: '}' :: rest) => some (spanBlank rest)
  | some ('%' :: '}' :: rest) => some ([], rest)
  | _ => none

/-- The tag that closes raw text: the sign before it, the white space it swallows, what follows. -/
def rawEnd? (trim : Bool) : List Char → Option (Sign × List Char × List Char)
  | '{' :: '%' :: rest =>
    let (sign, rest) := Sign.read rest
    match keyword? "endraw" rest with
    | none => none
    | some cs => (end? '%' trim cs).map fun (blank, after) => (sign, blank, after)
  | _ => none

/-- What opens here: its sign, its kind and what follows. -/
def opening? : List Char → Option (Sign × Opening × List Char)
  | '{' :: '%' :: rest =>
    let (sign, inside) := Sign.read rest
    match rawBegin? inside with
    | some (blank, after) => some (sign, .raw blank, after)
    | none => some (sign, .block, inside)
  | '{' :: '{' :: rest =>
    let (sign, inside) := Sign.read rest
    some (sign, .print, inside)
  | '{' :: '#' :: rest =>
    let (sign, inside) := Sign.read rest
    some (sign, .comment, inside)
  | _ => none

/-! ## White space before a tag -/

/-- A reversed text without the blanks of its last line, if that line is blank and starts in this text
or the text itself starts a line. -/
def dropBlankLine (fresh : Bool) (reversed : List Char) : List Char :=
  let line := reversed.takeWhile (· ≠ '\n')
  if (fresh || line.length < reversed.length) && line.all Text.isBlank then
    reversed.drop line.length
  else reversed

/-- The text before a tag, reversed, once the tag has taken its white space. -/
def textBefore (strip : Bool) (sign : Sign) (fresh : Bool) (reversed : List Char) : List Char :=
  match sign with
  | .minus => reversed.dropWhile Text.isBlank
  | .plain => if strip then dropBlankLine fresh reversed else reversed
  | .plus => reversed

/-- A piece of text as a token, unless it is empty. -/
def dataToken (line : Nat) (reversed : List Char) (rest : List Located) : List Located :=
  if reversed.isEmpty then rest else ⟨.data (.ofList reversed.reverse), line⟩ :: rest

/-! ## Marks -/

def Opening.begin : Opening → Token
  | .print => .printBegin
  | _ => .blockBegin

/-- The longest mark that starts with these characters. -/
def mark? : List Char → Option (Mark × List Char)
  | '*' :: '*' :: r => some (.doubleStar, r)
  | '/' :: '/' :: r => some (.doubleSlash, r)
  | '=' :: '=' :: r => some (.equal, r)
  | '!' :: '=' :: r => some (.unequal, r)
  | '<' :: '=' :: r => some (.lessOrEqual, r)
  | '>' :: '=' :: r => some (.greaterOrEqual, r)
  | '+' :: r => some (.plus, r)
  | '-' :: r => some (.minus, r)
  | '*' :: r => some (.star, r)
  | '/' :: r => some (.slash, r)
  | '%' :: r => some (.percent, r)
  | '~' :: r => some (.tilde, r)
  | '(' :: r => some (.lparen, r)
  | ')' :: r => some (.rparen, r)
  | '[' :: r => some (.lbracket, r)
  | ']' :: r => some (.rbracket, r)
  | '{' :: r => some (.lbrace, r)
  | '}' :: r => some (.rbrace, r)
  | '<' :: r => some (.less, r)
  | '>' :: r => some (.greater, r)
  | '=' :: r => some (.assign, r)
  | '.' :: r => some (.dot, r)
  | ':' :: r => some (.colon, r)
  | '|' :: r => some (.pipe, r)
  | ',' :: r => some (.comma, r)
  | ';' :: r => some (.semicolon, r)
  | _ => none

/-- The bracket that a mark opens, by what closes it. -/
def Mark.closer? : Mark → Option Char
  | .lparen => some ')'
  | .lbracket => some ']'
  | .lbrace => some '}'
  | _ => none

/-- The bracket that a mark closes. -/
def Mark.closes? : Mark → Option Char
  | .rparen => some ')'
  | .rbracket => some ']'
  | .rbrace => some '}'
  | _ => none

/-- The open brackets after a mark, innermost first. -/
def balance (opened : List Char) (m : Mark) : Except ParseFault (List Char) :=
  match m.closer?, m.closes? with
  | some c, _ => .ok (c :: opened)
  | none, some c =>
    match opened with
    | [] => .error (.unexpectedCloser c)
    | expected :: rest => if c = expected then .ok rest else .error (.wrongCloser c expected)
  | none, none => .ok opened

/-! ## Inside a tag -/

/-- A word, number, quoted text or mark at the beginning, with the brackets that are open after it.
`afterDot` holds right after a dot, where no number with a fraction can start; `total` is the length of
the whole text. -/
def tagToken (total : Nat) (opened : List Char) (afterDot : Bool) (cs : List Char) :
    Except ParseFault (Token × List Char × List Char) :=
  match if afterDot then none else float? cs with
  | some (x, rest) => .ok (.float x, opened, rest)
  | none =>
    match integer? cs with
    | some (n, rest) => .ok (.int n, opened, rest)
    | none =>
      match cs with
      | [] => .error (.unexpectedChar ' ' total)
      | c :: rest =>
        if Text.isWordChar c then
          let word := cs.takeWhile Text.isWordChar
          if Text.isIdentifier word then
            .ok (.name (.ofList word), opened, cs.dropWhile Text.isWordChar)
          else .error .badIdentifier
        else
          let body := if c = '\'' ∨ c = '"' then quotedBody? c rest else none
          match body with
          | some (body, after) => (literalText body).map fun s => (.text s, opened, after)
          | none =>
            match mark? cs with
            | none => .error (.unexpectedChar c (total - cs.length))
            | some (m, after) => (balance opened m).map fun opened => (.mark m, opened, after)

/-! ## The whole text -/

/-- What the reader is in the middle of. Texts are reversed; `fresh` tells whether they start a line and
`start` is the line they start on. -/
inductive Region
  | text (reversed : List Char) (fresh : Bool) (start : Nat)
  | raw (reversed : List Char) (fresh : Bool) (start : Nat)
  | comment (started : Bool)
  | tag (kind : Opening) (opened : List Char) (afterDot : Bool)
  deriving Repr

/-- The text after white space that a border swallowed. -/
def Region.after (blank : List Char) (line : Nat) : Region :=
  .text [] (blank.getLast? == some '\n') (line + blank.count '\n')

/-- Reads tokens from inside a region on. `total` is the length of the whole text and `fuel` exceeds that of the
rest. -/
def scanFrom (l : Layout) (total : Nat) : Nat → Region → Nat → List Char → List Located
  | 0, _, _, _ => []
  | _, .text reversed _ start, _, [] => dataToken start reversed []
  | fuel + 1, .text reversed fresh start, line, c :: rest =>
    match opening? (c :: rest) with
    | none =>
      scanFrom l total fuel (.text (c :: reversed) fresh start)
        (if c = '\n' then line + 1 else line) rest
    | some (sign, kind, after) =>
      let strip := l.lstripBlocks && kind ≠ .print
      dataToken start (textBefore strip sign fresh reversed) <|
        match kind with
        | .raw blank =>
          let line := line + (rest.count '\n' - after.count '\n')
          scanFrom l total fuel (.raw [] (blank.getLast? == some '\n') line) line after
        | .comment => scanFrom l total fuel (.comment false) line after
        | kind => ⟨kind.begin, line⟩ :: scanFrom l total fuel (.tag kind [] false) line after
  | _, .raw [] _ _, _, [] => []
  | _, .raw (_ :: _) _ line, _, [] => [⟨.broken .unclosedRaw, line⟩]
  | fuel + 1, .raw reversed fresh start, line, c :: rest =>
    match rawEnd? l.trimBlocks (c :: rest) with
    | none =>
      scanFrom l total fuel (.raw (c :: reversed) fresh start)
        (if c = '\n' then line + 1 else line) rest
    | some (sign, blank, after) =>
      let line := line + (rest.count '\n' - after.count '\n' - blank.count '\n')
      dataToken start (textBefore l.lstripBlocks sign fresh reversed) <|
        scanFrom l total fuel (.after blank line) (line + blank.count '\n') after
  | _, .comment started, line, [] => if started then [⟨.broken .unclosedComment, line⟩] else []
  | fuel + 1, .comment _, line, c :: rest =>
    match end? '#' l.trimBlocks (c :: rest) with
    | none => scanFrom l total fuel (.comment true) (if c = '\n' then line + 1 else line) rest
    | some (blank, after) =>
      scanFrom l total fuel (.after blank line) (line + blank.count '\n') after
  | _, .tag .., _, [] => []
  | fuel + 1, .tag kind opened afterDot, line, c :: rest =>
    let cs := c :: rest
    let closing :=
      if opened.isEmpty then
        match kind with
        | .print => (printEnd? cs).map (Token.printEnd, ·)
        | _ => (end? '%' l.trimBlocks cs).map (Token.blockEnd, ·)
      else none
    match closing with
    | some (token, blank, after) =>
      ⟨token, line⟩ :: scanFrom l total fuel (.after blank line) (line + blank.count '\n') after
    | none =>
      if Text.isBlank c then
        scanFrom l total fuel (.tag kind opened false) (if c = '\n' then line + 1 else line) rest
      else
        match tagToken total opened afterDot cs with
        | .error fault => [⟨.broken fault, line⟩]
        | .ok (token, opened, after) =>
          let dot := match token with
            | .mark .dot => true
            | _ => false
          let newlines := match token with
            | .text _ => cs.count '\n' - after.count '\n'
            | _ => 0
          ⟨token, line⟩ :: scanFrom l total fuel (.tag kind opened dot) (line + newlines) after

/-- The tokens of a template. -/
def scan (l : Layout) (s : String) : List Located :=
  let cs := l.source s
  scanFrom l cs.length (cs.length + 1) (.text [] true 1) 1 cs

end Emission.Template
