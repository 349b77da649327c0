import Emission.Text.Hex
import Emission.Yaml.Basic

/-!
# Quoted scalars

Texts between single or double quotes, written and read. Line breaks inside the quotes are folded, so a
long text may be written in several lines. Between single quotes a quote is written twice and nothing
else is escaped; between double quotes every character has an escape.
-/

namespace Emission.Yaml

/-! ## Reading -/

/-- The breaks and indentation at the start of a text inside quotes. A separator of documents may not
stand there. The first argument bounds the number of lines. -/
def quotedBreaks? : Nat → List Char → Option (List Char × List Char)
  | 0, cs => some ([], cs)
  | fuel + 1, cs =>
    if atSeparator cs then none
    else
      let rest := cs.dropWhile isSpaceOrTab
      if isBreak (first rest) then
        let (b, after) := takeBreak rest
        (quotedBreaks? fuel after).map fun (bs, after) => (b ++ bs, after)
      else some ([], rest)

/-- What white space inside quotes stands for, and what follows it. -/
def quotedSpace? (cs : List Char) : Option (List Char × List Char) :=
  let rest := cs.dropWhile isSpaceOrTab
  if rest.isEmpty then none
  else if isBreak (first rest) then
    let (b, after) := takeBreak rest
    (quotedBreaks? after.length after).map fun (bs, after) => (foldBreaks b bs, after)
  else some (cs.takeWhile isSpaceOrTab, rest)

/-- What the escape of one character stands for. -/
def escapeMeaning? (c : Char) : Option Char :=
  match c with
  | '0' => some '\x00'
  | 'a' => some '\x07'
  | 'b' => some '\x08'
  | 't' | '\t' => some '\t'
  | 'n' => some '\n'
  | 'v' => some '\x0b'
  | 'f' => some '\x0c'
  | 'r' => some '\r'
  | 'e' => some '\x1b'
  | ' ' => some ' '
  | '"' => some '"'
  | '\\' => some '\\'
  | '/' => some '/'
  | 'N' => some '\u0085'
  | '_' => some '\u00a0'
  | 'L' => some '\u2028'
  | 'P' => some '\u2029'
  | _ => none

/-- How many digits follow an escape mark. -/
def escapeWidth? (c : Char) : Option Nat :=
  match c with
  | 'x' => some 2
  | 'u' => some 4
  | 'U' => some 8
  | _ => none

/-- What an escape stands for after its backslash, and what follows it. -/
def readEscape? : List Char → Option (List Char × List Char)
  | [] => none
  | c :: rest =>
    match escapeMeaning? c, escapeWidth? c with
    | some d, _ => some ([d], rest)
    | none, some width =>
      let digits := rest.take width
      match if digits.length = width then Text.readHex? digits else none with
      | none => none
      | some n =>
        if n > 0x10FFFF then none
        else
          some ([if 0xD800 ≤ n ∧ n ≤ 0xDFFF then '\uFFFD' else Char.ofNat n], rest.drop width)
    | none, none =>
      if isBreak c then
        let after := (takeBreak (c :: rest)).2
        quotedBreaks? after.length after
      else none

/-- The text of a scalar after its opening quote, and what follows the closing one. The first argument
bounds the number of steps. -/
def readQuoted? (quote : Char) : Nat → List Char → Option (List Char × List Char)
  | 0, _ | _, [] => none
  | fuel + 1, c :: rest =>
    let put (s : List Char) (found : Option (List Char × List Char)) :=
      found.map fun (t, after) => (s ++ t, after)
    if quote = '\'' ∧ c = '\'' ∧ first rest = '\'' then put ['\''] (readQuoted? quote fuel (rest.drop 1))
    else if c = quote then some ([], rest)
    else if quote = '"' ∧ c = '\\' then
      match readEscape? rest with
      | none => none
      | some (s, after) => put s (readQuoted? quote fuel after)
    else if isSpaceOrTab c || isBreak c then
      match quotedSpace? (c :: rest) with
      | none => none
      | some (s, after) => put s (readQuoted? quote fuel after)
    else put [c] (readQuoted? quote fuel rest)

/-! ## Writing -/

/-- The column up to which lines are filled. -/
def bestWidth : Nat := 80

/-- A new line with its indentation. -/
def newLine (indent : Nat) : List Char := '\n' :: List.replicate indent ' '

/-- The characters of a text between single quotes, from a column on. `before` is the character in front.
A blank that stands alone beyond the best width becomes a new line; a line feed is written twice where
the text has it for the first time in a row. -/
def singleChars (fold : Bool) (indent : Nat) (before : Option Char) (column : Nat) :
    List Char → List Char
  | [] => []
  | c :: rest =>
    if c = '\'' then '\'' :: '\'' :: singleChars fold indent (some c) (column + 2) rest
    else if c = '\n' then
      (if before = some '\n' then [] else ['\n']) ++
        (if rest.head? = some '\n' then '\n' :: singleChars fold indent (some c) 0 rest
          else newLine indent ++ singleChars fold indent (some c) indent rest)
    else if c = ' ' ∧ fold ∧ before ≠ none ∧ before ≠ some ' ' ∧ rest ≠ [] ∧
        rest.head? ≠ some ' ' ∧ bestWidth < column then
      newLine indent ++ singleChars fold indent (some c) indent rest
    else c :: singleChars fold indent (some c) (column + 1) rest

/-- A text between single quotes; the opening quote is written at a column. -/
def singleForm (fold : Bool) (indent column : Nat) (s : List Char) : List Char :=
  '\'' :: singleChars fold indent none (column + 1) s ++ ['\'']

/-- The escape mark of a character that has one of its own. -/
def escapeMark? (c : Char) : Option Char :=
  match c with
  | '\x00' => some '0'
  | '\x07' => some 'a'
  | '\x08' => some 'b'
  | '\t' => some 't'
  | '\n' => some 'n'
  | '\x0b' => some 'v'
  | '\x0c' => some 'f'
  | '\r' => some 'r'
  | '\x1b' => some 'e'
  | '"' => some '"'
  | '\\' => some '\\'
  | '\u0085' => some 'N'
  | '\u00a0' => some '_'
  | '\u2028' => some 'L'
  | '\u2029' => some 'P'
  | _ => none

/-- A character as an escape: by its mark or with two, four or eight digits. -/
def escapeForm (c : Char) : List Char :=
  match escapeMark? c with
  | some m => ['\\', m]
  | none =>
    let n := c.toNat
    if n < 0x100 then '\\' :: 'x' :: Text.hexFixed .upper 2 n
    else if n < 0x10000 then '\\' :: 'u' :: Text.hexFixed .upper 4 n
    else '\\' :: 'U' :: Text.hexFixed .upper 8 n

/-- Characters that stand for themselves between double quotes. -/
def isUnescaped (c : Char) : Bool := ' ' ≤ c && c ≤ '~' && c != '"' && c != '\\'

/-- The characters of a text between double quotes, from a column on. A line is broken behind a backslash
where it is beyond the best width, before a blank or behind an escape (`escaped`), but neither at the
start of the text nor before its last character; a blank that comes first on its line is escaped. -/
def doubleChars (fold : Bool) (indent : Nat) (atStart escaped : Bool) (column : Nat) :
    List Char → List Char
  | [] => []
  | c :: rest =>
    let breakable := fold && !atStart && !rest.isEmpty
    if isUnescaped c then
      if breakable && (c == ' ' || escaped) && bestWidth < column then
        if c = ' ' then
          '\\' :: newLine indent ++ '\\' :: c :: doubleChars fold indent false false (indent + 2) rest
        else '\\' :: newLine indent ++ c :: doubleChars fold indent false false (indent + 1) rest
      else c :: doubleChars fold indent false false (column + 1) rest
    else
      let form := escapeForm c
      let column := column + form.length
      if breakable && bestWidth + 1 < column then
        if rest.head? = some ' ' then
          form ++ '\\' :: newLine indent ++ '\\' :: doubleChars fold indent false true (indent + 1) rest
        else form ++ '\\' :: newLine indent ++ doubleChars fold indent false true indent rest
      else form ++ doubleChars fold indent false true column rest

/-- A text between double quotes; the opening quote is written at a column. -/
def doubleForm (fold : Bool) (indent column : Nat) (s : List Char) : List Char :=
  '"' :: doubleChars fold indent true false (column + 1) s ++ ['"']

end Emission.Yaml
