import Emission.Yaml.Quoted

/-!
# Plain scalars

Texts without quotes, written and read, and which texts can be written so.
-/

namespace Emission.Yaml

/-! ## Reading -/

/-- The marks that end a plain scalar inside brackets and braces. -/
def isFlowMark (c : Char) : Bool := c == ',' || c == '[' || c == ']' || c == '\x7b' || c == '\x7d'

/-- A plain scalar ends before the first of these characters: at a gap, at a colon with a gap behind it,
and inside brackets at their marks. -/
def plainEnds (flow : Bool) (cs : List Char) : Bool :=
  match cs with
  | [] => true
  | c :: rest =>
    isGap c || (c == ':' && (isGap (first rest) || (flow && isFlowMark (first rest)))) ||
      (flow && (isFlowMark c || c == '?'))

/-- A run of characters of a plain scalar, and what follows it. -/
def plainRun (flow : Bool) : List Char → List Char × List Char
  | [] => ([], [])
  | c :: rest =>
    if plainEnds flow (c :: rest) then ([], c :: rest)
    else
      let (run, after) := plainRun flow rest
      (c :: run, after)

/-- The white space between two runs. -/
structure PlainSpace where
  /-- What it stands for, or nothing if the scalar ends here. -/
  meaning : List Char
  rest : List Char
  /-- The column after the last line break, if there is one. -/
  column : Option Nat

/-- Further breaks and blanks at the start of a line of which `column` blanks are read. A separator of
documents after a break ends the scalar. The first argument bounds the number of steps. -/
def plainBreaks (column : Nat) : Nat → List Char → Option (List Char) × List Char × Nat
  | 0, cs => (some [], cs, column)
  | fuel + 1, cs =>
    if first cs = ' ' then plainBreaks (column + 1) fuel (cs.drop 1)
    else if isBreak (first cs) then
      let (b, after) := takeBreak cs
      if atSeparator after then (none, after, 0)
      else
        let (bs, after) := plainBreaks 0 fuel after
        (bs.map (b ++ ·), after)
    else (some [], cs, column)

/-- The white space after a run. -/
def plainSpace (cs : List Char) : PlainSpace :=
  let rest := cs.dropWhile (· == ' ')
  if isBreak (first rest) then
    let (b, after) := takeBreak rest
    if atSeparator after then ⟨[], after, some 0⟩
    else
      match plainBreaks 0 (after.length + 1) after with
      | (none, after, column) => ⟨[], after, some column⟩
      | (some bs, after, column) => ⟨foldBreaks b bs, after, some column⟩
  else ⟨cs.takeWhile (· == ' '), rest, none⟩

/-- What was read of a plain scalar: its text, what follows it and the white space behind it, and whether
a line break is in that white space. -/
structure PlainRead where
  text : List Char
  rest : List Char
  crossed : Bool

/-- A plain scalar whose lines must be indented by at least `indent` blanks. The first argument bounds the
number of runs. -/
def readPlain (flow : Bool) (indent : Nat) : Nat → List Char → PlainRead
  | 0, cs => ⟨[], cs, false⟩
  | fuel + 1, cs =>
    let (run, after) := plainRun flow cs
    let space := plainSpace after
    let outdented := !flow && space.column.any (· < indent)
    if space.meaning.isEmpty || first space.rest == '#' || outdented ||
        plainEnds flow space.rest then
      ⟨run, space.rest, space.column.isSome⟩
    else
      let more := readPlain flow indent fuel space.rest
      ⟨run ++ space.meaning ++ more.text, more.rest, more.crossed⟩

/-! ## Writing -/

/-- Two neighbouring characters, one of each kind. -/
def hasPair (p q : Char → Bool) : List Char → Bool
  | c :: d :: rest => (p c && q d) || hasPair p q (d :: rest)
  | _ => false

/-- A mark that no plain text may start with. -/
def isLeadingMark (c : Char) : Bool :=
  "#,[]&*!|>'\"%@`".toList.contains c || c == '\x7b' || c == '\x7d'

/-- A character that only double quotes can hold. -/
def isSpecial (c : Char) : Bool := !(c == '\n' || (' ' ≤ c && c ≤ '~'))

/-- A text starts like a separator of documents, or with a mark. -/
def startsLikeMark (cs : List Char) : Bool :=
  cs.take 3 == ['-', '-', '-'] || cs.take 3 == ['.', '.', '.'] || isLeadingMark (first cs) ||
    ((first cs == '?' || first cs == '-') && isGap (second cs))

/-- A colon before a gap or at the end. -/
def hasKeyMark : List Char → Bool
  | [] => false
  | c :: rest => (c == ':' && isGap (first rest)) || hasKeyMark rest

/-- A text can be written without quotes. -/
def isPlainText (cs : List Char) : Bool :=
  !cs.isEmpty && !cs.any isSpecial && !cs.any isBreak && first cs != ' ' &&
    cs.getLast? != some ' ' && !startsLikeMark cs && !hasKeyMark cs &&
    !hasPair isGap (· == '#') cs

/-- A text can be written between single quotes. -/
def isSingleText (cs : List Char) : Bool :=
  !cs.any isSpecial && !hasPair isBreak (· == ' ') cs && !hasPair (· == ' ') isBreak cs

/-- The characters of a plain text, from a column on. A blank that stands alone beyond the best width
becomes a new line. -/
def plainChars (fold : Bool) (indent : Nat) (before : Option Char) (column : Nat) :
    List Char → List Char
  | [] => []
  | c :: rest =>
    if c = ' ' ∧ fold ∧ before ≠ some ' ' ∧ rest.head? ≠ some ' ' ∧ bestWidth < column then
      newLine indent ++ plainChars fold indent (some c) indent rest
    else c :: plainChars fold indent (some c) (column + 1) rest

/-- A plain text at a column. -/
def plainForm (fold : Bool) (indent column : Nat) (s : List Char) : List Char :=
  plainChars fold indent none column s

end Emission.Yaml
