import Emission.Yaml.Block
import Emission.Yaml.Plain

/-!
# YAML tokens

A YAML text as tokens: scalars, marks, and the starts and ends of blocks that follow from indentation.
Whether a scalar is a key is known only when the colon behind it is met; until then its place is kept.
-/

namespace Emission.Yaml

inductive Token
  | version (major : Nat)
  /-- A short form of tags and what it stands for. -/
  | shorthand (short meaning : String)
  /-- A directive without meaning here. -/
  | directive
  | documentStart
  | documentEnd
  | sequenceStart
  | mappingStart
  | blockEnd
  | flowSequenceStart
  | flowSequenceEnd
  | flowMappingStart
  | flowMappingEnd
  /-- A dash before an item of a block. -/
  | item
  | comma
  | key
  | value
  | alias (name : String)
  | anchor (name : String)
  | tag (short : Option String) (suffix : String)
  | scalar (text : String) (plain : Bool)
  deriving DecidableEq, Repr

/-! ## The place in the text -/

/-- What is left of a text and where that is. -/
structure Cursor where
  rest : List Char
  index : Nat := 0
  line : Nat := 0
  column : Nat := 0

namespace Cursor

/-- One character further. -/
def step (c : Cursor) : Cursor :=
  match c.rest with
  | [] => c
  | ch :: rest =>
    let crossed := isBreak ch && !(ch == '\r' && first rest == '\n')
    { rest
      index := c.index + 1
      line := if crossed then c.line + 1 else c.line
      column := if crossed then 0 else if ch = '\uFEFF' then c.column else c.column + 1 }

/-- Many characters further. -/
def forward : Nat → Cursor → Cursor
  | 0, c => c
  | n + 1, c => forward n c.step

/-- Further until only `rest` is left. -/
def moveTo (c : Cursor) (rest : List Char) : Cursor := forward (c.rest.length - rest.length) c

end Cursor

/-! ## The scanner -/

/-- A place where a key may have started. -/
structure PossibleKey where
  /-- How many tokens are before it. -/
  token : Nat
  /-- It must be a key, since it starts a line of its block. -/
  required : Bool
  index : Nat
  line : Nat
  column : Nat

/-- The tokens so far and what decides about the next ones. -/
structure Scanner where
  cursor : Cursor
  /-- How many brackets and braces are open. -/
  flow : Nat := 0
  /-- The indentation of the innermost block, or minus one outside all blocks. -/
  indent : Int := -1
  outer : List Int := []
  /-- A key may start here. -/
  keyAllowed : Bool := true
  /-- Possible keys by the number of open brackets. -/
  keys : List (Nat × PossibleKey) := []
  tokens : List Token := []

namespace Scanner

def push (s : Scanner) (t : Token) : Scanner := { s with tokens := s.tokens ++ [t] }

def forward (s : Scanner) (n : Nat) : Scanner := { s with cursor := s.cursor.forward n }

def allowKey (s : Scanner) (allowed : Bool) : Scanner := { s with keyAllowed := allowed }

/-- The blocks that end before a column, counted, and the indentations that remain. -/
def closed (column indent : Int) : List Int → Nat × Int × List Int
  | [] => (0, indent, [])
  | i :: outer =>
    if indent > column then
      let (n, rest) := closed column i outer
      (n + 1, rest)
    else (0, indent, i :: outer)

/-- Ends the blocks that are indented beyond a column. -/
def unwind (s : Scanner) (column : Int) : Scanner :=
  if s.flow > 0 then s
  else
    let (n, indent, outer) := closed column s.indent s.outer
    { s with indent, outer, tokens := s.tokens ++ List.replicate n .blockEnd }

/-- Starts a block at a column that is indented beyond the innermost one, with a token at a place. -/
def openBlock (s : Scanner) (column : Int) (place : Nat) (t : Token) : Scanner :=
  if s.indent < column then
    { s with
      indent := column
      outer := s.indent :: s.outer
      tokens := s.tokens.take place ++ t :: s.tokens.drop place }
  else s

/-! ### Possible keys -/

/-- Forgets the possible key among the brackets that are open, unless it must be one. -/
def dropKey? (s : Scanner) : Option Scanner :=
  match s.keys.lookup s.flow with
  | some k => if k.required then none else some { s with keys := s.keys.filter (·.1 ≠ s.flow) }
  | none => some s

/-- A key is on one line and not too long. -/
def isStale (s : Scanner) (k : PossibleKey) : Bool :=
  k.line ≠ s.cursor.line || s.cursor.index - k.index > 1024

/-- Forgets the possible keys that cannot be keys any more, unless one of them must be one. -/
def dropStaleKeys? (s : Scanner) : Option Scanner :=
  if s.keys.any fun (_, k) => s.isStale k && k.required then none
  else some { s with keys := s.keys.filter fun (_, k) => !s.isStale k }

/-- Keeps the place as that of a possible key. -/
def keepKey? (s : Scanner) : Option Scanner :=
  if s.keyAllowed then
    s.dropKey?.map fun s =>
      let k : PossibleKey :=
        { token := s.tokens.length
          required := s.flow = 0 && s.indent == s.cursor.column
          index := s.cursor.index
          line := s.cursor.line
          column := s.cursor.column }
      { s with keys := (s.flow, k) :: s.keys }
  else some s

/-! ### Blanks, comments and directives -/

/-- Skips blanks, comments and line breaks. Outside brackets a key may start after a break. The first
argument bounds the number of lines. -/
def skipBlank : Nat → Scanner → Scanner
  | 0, s => s
  | fuel + 1, s =>
    let rest := s.cursor.rest.dropWhile (· == ' ')
    let rest := if first rest = '#' then rest.dropWhile (!isBreakOrEnd ·) else rest
    let (b, after) := takeBreak rest
    if b.isEmpty then { s with cursor := s.cursor.moveTo rest }
    else
      let s := { s with cursor := s.cursor.moveTo after }
      skipBlank fuel (if s.flow = 0 then s.allowKey true else s)

/-- A mark of byte order may start a text. -/
def skipOrderMark (s : Scanner) : Scanner :=
  if s.cursor.index = 0 ∧ first s.cursor.rest = '\uFEFF' then s.forward 1 else s

/-- Characters of names. -/
def isNameChar (c : Char) : Bool := c.isAlphanum || c == '-' || c == '_'

/-- Characters of a tag behind its short form. -/
def isTagChar (c : Char) : Bool := c.isAlphanum || "-;/?:@&=+$,_.!~*'()[]%".toList.contains c

/-- What a percent sign and two digits stand for, byte by byte. -/
def unescapeBytes? : List Char → Option (List UInt8)
  | [] => some []
  | '%' :: a :: b :: rest =>
    match Text.readHex? [a, b], unescapeBytes? rest with
    | some n, some bs => some (.ofNat n :: bs)
    | _, _ => none
  | c :: rest =>
    if c = '%' then none else (unescapeBytes? rest).map (.ofNat c.toNat :: ·)

/-- A tag behind its short form. -/
def tagSuffix? (cs : List Char) : Option (String × List Char) :=
  let suffix := cs.takeWhile isTagChar
  if suffix.isEmpty then none
  else
    match unescapeBytes? suffix with
    | some bs =>
      (String.fromUTF8? ⟨bs.toArray⟩).map fun s => (s, cs.dropWhile isTagChar)
    | none => none

/-- The short form of a tag: one exclamation mark, or a name between two. -/
def shortForm? (cs : List Char) : Option (String × List Char) :=
  match cs with
  | '!' :: rest =>
    let name := rest.takeWhile isNameChar
    let after := rest.dropWhile isNameChar
    if first after = '!' then some (.ofList ('!' :: name ++ ['!']), after.drop 1)
    else if first rest = ' ' then some ("!", rest)
    else none
  | _ => none

def isSpaceOrBreak (c : Char) : Bool := c == ' ' || isBreakOrEnd c

/-- The numbers of a version directive, of which the first is kept. -/
def versionNumber? (cs : List Char) : Option (Nat × List Char) :=
  let major := cs.takeWhile Char.isDigit
  match cs.dropWhile Char.isDigit with
  | '.' :: rest =>
    let minor := rest.takeWhile Char.isDigit
    let after := rest.dropWhile Char.isDigit
    if major.isEmpty || minor.isEmpty || !isSpaceOrBreak (first after) then none
    else some (major.foldl (fun n c => 10 * n + (c.toNat - 48)) 0, after)
  | _ => none

/-- A short form and what it stands for. -/
def shorthand? (cs : List Char) : Option (Token × List Char) :=
  match shortForm? cs with
  | none => none
  | some (short, rest) =>
    if first rest ≠ ' ' then none
    else
      match tagSuffix? (rest.dropWhile (· == ' ')) with
      | some (meaning, after) =>
        if isSpaceOrBreak (first after) then some (.shorthand short meaning, after) else none
      | none => none

/-- A directive behind its percent sign, and the lines after it. -/
def directive? (cs : List Char) : Option (Token × List Char) :=
  let name := cs.takeWhile isNameChar
  let rest := cs.dropWhile isNameChar
  if name.isEmpty || !isSpaceOrBreak (first rest) then none
  else
    let found :=
      if name = "YAML".toList then
        (versionNumber? (rest.dropWhile (· == ' '))).map fun (n, after) => (Token.version n, after)
      else if name = "TAG".toList then shorthand? (rest.dropWhile (· == ' '))
      else some (.directive, rest.dropWhile (!isBreakOrEnd ·))
    match found with
    | none => none
    | some (t, rest) =>
      let rest := rest.dropWhile (· == ' ')
      let rest := if first rest = '#' then rest.dropWhile (!isBreakOrEnd ·) else rest
      if isBreakOrEnd (first rest) then some (t, (takeBreak rest).2) else none

/-! ### One token -/

/-- Starts a bracket or brace. -/
def openFlow? (s : Scanner) (t : Token) : Option Scanner :=
  s.keepKey?.map fun s => (({ s with flow := s.flow + 1 }.allowKey true).forward 1).push t

/-- Ends a bracket or brace. -/
def closeFlow? (s : Scanner) (t : Token) : Option Scanner :=
  s.dropKey?.map fun s => (({ s with flow := s.flow - 1 }.allowKey false).forward 1).push t

/-- A mark on the left margin outside all blocks. -/
def margin? (s : Scanner) : Option Scanner := ((s.unwind (-1)).dropKey?).map (·.allowKey false)

/-- A dash before an item. -/
def item? (s : Scanner) : Option Scanner :=
  let start := if s.flow > 0 then some s
    else if s.keyAllowed then some (s.openBlock s.cursor.column s.tokens.length .sequenceStart)
    else none
  match start with
  | none => none
  | some s => ((s.allowKey true).dropKey?).map fun s => (s.forward 1).push .item

/-- A question mark before a key. -/
def key? (s : Scanner) : Option Scanner :=
  let start := if s.flow > 0 then some s
    else if s.keyAllowed then some (s.openBlock s.cursor.column s.tokens.length .mappingStart)
    else none
  match start with
  | none => none
  | some s => ((s.allowKey (s.flow = 0)).dropKey?).map fun s => (s.forward 1).push .key

/-- A colon. If a key may have started before it, the key is marked there, and perhaps the start of its
block. -/
def value? (s : Scanner) : Option Scanner :=
  match s.keys.lookup s.flow with
  | some k =>
    let s := { s with
      keys := s.keys.filter (·.1 ≠ s.flow)
      tokens := s.tokens.take k.token ++ Token.key :: s.tokens.drop k.token }
    let s := if s.flow > 0 then s else s.openBlock k.column k.token .mappingStart
    some (((s.allowKey false).forward 1).push .value)
  | none =>
    let start := if s.flow > 0 then some s
      else if s.keyAllowed then some (s.openBlock s.cursor.column s.tokens.length .mappingStart)
      else none
    match start with
    | none => none
    | some s => ((s.allowKey (s.flow = 0)).dropKey?).map fun s => (s.forward 1).push .value

/-- A name behind an ampersand or a star. -/
def named? (s : Scanner) (t : String → Token) : Option Scanner :=
  match s.keepKey? with
  | none => none
  | some s =>
    let rest := s.cursor.rest.drop 1
    let name := rest.takeWhile isNameChar
    let after := rest.dropWhile isNameChar
    if name.isEmpty ∨ !(isGap (first after) || "?:,]\x7d%@`".toList.contains (first after)) then none
    else some (({ s with cursor := s.cursor.moveTo after }.allowKey false).push (t (.ofList name)))

/-- A tag at the start of a text, and what follows it. -/
def tag? (cs : List Char) : Option (Token × List Char) :=
  let rest := cs.drop 1
  let found :=
    if first rest = '<' then
      match tagSuffix? (rest.drop 1) with
      | some (suffix, after) =>
        if first after = '>' then some (Token.tag none suffix, after.drop 1) else none
      | none => none
    else if isGap (first rest) then some (.tag none "!", rest)
    else if (rest.takeWhile (!isSpaceOrBreak ·)).contains '!' then
      match shortForm? cs with
      | some (short, after) => (tagSuffix? after).map fun (s, after) => (.tag (some short) s, after)
      | none => none
    else (tagSuffix? rest).map fun (s, after) => (.tag (some "!") s, after)
  match found with
  | some (t, after) => if isSpaceOrBreak (first after) then some (t, after) else none
  | none => none

def tagged? (s : Scanner) : Option Scanner :=
  match s.keepKey?, tag? s.cursor.rest with
  | some s, some (t, after) =>
    some (({ s with cursor := s.cursor.moveTo after }.allowKey false).push t)
  | _, _ => none

/-- A block scalar. -/
def block? (s : Scanner) (folded : Bool) : Option Scanner :=
  match (s.allowKey true).dropKey?, readBlock? folded s.indent (s.cursor.rest.drop 1) with
  | some s, some (text, after) =>
    some ({ s with cursor := s.cursor.moveTo after }.push (.scalar (.ofList text) false))
  | _, _ => none

/-- A quoted scalar. -/
def quoted? (s : Scanner) (quote : Char) : Option Scanner :=
  match s.keepKey?, readQuoted? quote s.cursor.rest.length (s.cursor.rest.drop 1) with
  | some s, some (text, after) =>
    some (({ s with cursor := s.cursor.moveTo after }.allowKey false).push
      (.scalar (.ofList text) false))
  | _, _ => none

/-- A plain scalar. After a line break in the white space behind it a key may start. -/
def plain? (s : Scanner) : Option Scanner :=
  s.keepKey?.map fun s =>
    let read := readPlain (s.flow > 0) (s.indent + 1).toNat s.cursor.rest.length s.cursor.rest
    ({ s with cursor := s.cursor.moveTo read.rest }.allowKey read.crossed).push
      (.scalar (.ofList read.text) true)

/-- A plain scalar can start here. -/
def startsPlain (flow : Bool) (cs : List Char) : Bool :=
  let c := first cs
  !(isGap c || isLeadingMark c || c == '-' || c == '?' || c == ':') ||
    (!isGap (second cs) && (c == '-' || (!flow && (c == '?' || c == ':'))))

/-- The next token, if there is a correct one. -/
def next? (s : Scanner) : Option Scanner :=
  let cs := s.cursor.rest
  let c := first cs
  let flow := s.flow > 0
  let spaced := isGap (second cs)
  if s.cursor.column = 0 ∧ c = '%' then
    match s.margin?, directive? (cs.drop 1) with
    | some s, some (t, after) => some ({ s with cursor := s.cursor.moveTo after }.push t)
    | _, _ => none
  else if s.cursor.column = 0 ∧ atSeparator cs then
    s.margin?.map fun s => (s.forward 3).push (if c = '-' then .documentStart else .documentEnd)
  else
    match c with
    | '[' => s.openFlow? .flowSequenceStart
    | '\x7b' => s.openFlow? .flowMappingStart
    | ']' => s.closeFlow? .flowSequenceEnd
    | '\x7d' => s.closeFlow? .flowMappingEnd
    | ',' => ((s.allowKey true).dropKey?).map fun s => (s.forward 1).push .comma
    | '*' => s.named? .alias
    | '&' => s.named? .anchor
    | '!' => s.tagged?
    | '\'' => s.quoted? '\''
    | '"' => s.quoted? '"'
    | c =>
      if c = '-' ∧ spaced then s.item?
      else if c = '?' ∧ (flow || spaced) then s.key?
      else if c = ':' ∧ (flow || spaced) then s.value?
      else if c = '|' ∧ !flow then s.block? false
      else if c = '>' ∧ !flow then s.block? true
      else if startsPlain flow cs then s.plain?
      else none

/-- The tokens up to the end of the text. The first argument bounds their number. -/
def run : Nat → Scanner → Option (List Token)
  | 0, _ => none
  | fuel + 1, s =>
    match (skipBlank (s.cursor.rest.length + 1) s.skipOrderMark).dropStaleKeys? with
    | none => none
    | some s =>
      let s := s.unwind s.cursor.column
      if s.cursor.rest.isEmpty then (s.unwind (-1)).dropKey?.map (·.tokens)
      else
        match s.next? with
        | none => none
        | some s => run fuel s

end Scanner

/-- The tokens of a text, if it consists of tokens. -/
def scan? (s : String) : Option (List Token) :=
  let cs := s.toList
  if cs.all isAllowed then Scanner.run (cs.length + 1) { cursor := { rest := cs } } else none

end Emission.Yaml
