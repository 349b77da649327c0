import Emission.Yaml.Basic

/-!
# Block scalars

Texts of several lines behind a bar, which keeps the lines, or behind an angle, which folds them.
-/

namespace Emission.Yaml

/-- What happens to the line breaks at the end of a block scalar. -/
inductive Chomping
  | clip | strip | keep
  deriving DecidableEq, Repr

/-- The marks behind the bar: what happens at the end, and how far the lines are indented, if given. -/
structure BlockHeader where
  chomping : Chomping
  increment : Option Nat

/-- A sign that tells what happens at the end. -/
def takeChomping : List Char → Option Chomping × List Char
  | '+' :: rest => (some .keep, rest)
  | '-' :: rest => (some .strip, rest)
  | cs => (none, cs)

/-- A digit that tells how far the lines are indented; zero is none. -/
def takeIncrement? : List Char → Option (Option Nat × List Char)
  | c :: rest =>
    if c = '0' then none
    else if c.isDigit then some (some (c.toNat - 48), rest)
    else some (none, c :: rest)
  | [] => some (none, [])

/-- The header of a block scalar and the lines behind it. -/
def blockHeader? (cs : List Char) : Option (BlockHeader × List Char) :=
  let (chomping, rest) := takeChomping cs
  match takeIncrement? rest with
  | none => none
  | some (increment, rest) =>
    let (chomping, rest) := match chomping, increment with
      | none, some _ => takeChomping rest
      | chomping, _ => (chomping, rest)
    if first rest ≠ ' ' ∧ !isBreakOrEnd (first rest) then none
    else
      let rest := rest.dropWhile (· == ' ')
      let rest := if first rest = '#' then rest.dropWhile (!isBreakOrEnd ·) else rest
      if isBreakOrEnd (first rest) then some (⟨chomping.getD .clip, increment⟩, (takeBreak rest).2)
      else none

/-- Where the reader of a block scalar stands after blank lines: their breaks, and the column in the line
that follows. -/
structure BlockGap where
  breaks : List Char
  column : Nat
  rest : List Char

/-- The blank lines before the first line, with the widest indentation among them and of that line. The
last argument but one bounds the number of steps. -/
def leadingGap (column widest : Nat) : Nat → List Char → BlockGap × Nat
  | 0, cs => (⟨[], column, cs⟩, widest)
  | fuel + 1, cs =>
    if first cs = ' ' then leadingGap (column + 1) (max widest (column + 1)) fuel (cs.drop 1)
    else if isBreak (first cs) then
      let (b, after) := takeBreak cs
      let (gap, widest) := leadingGap 0 widest fuel after
      ({ gap with breaks := b ++ gap.breaks }, widest)
    else (⟨[], column, cs⟩, widest)

/-- The blank lines before a line, whose indentation is taken up to a column. -/
def lineGap (indent column : Nat) : Nat → List Char → BlockGap
  | 0, cs => ⟨[], column, cs⟩
  | fuel + 1, cs =>
    if column < indent ∧ first cs = ' ' then lineGap indent (column + 1) fuel (cs.drop 1)
    else if isBreak (first cs) then
      let (b, after) := takeBreak cs
      let gap := lineGap indent 0 fuel after
      { gap with breaks := b ++ gap.breaks }
    else ⟨[], column, cs⟩

/-- What the break after a line stands for when another line follows. A folded break between two lines
that do not start with blanks is a blank, or nothing before further breaks. -/
def joinLines (folded : Bool) (line lineBreak : List Char) (gap : BlockGap) : List Char :=
  if folded ∧ lineBreak = ['\n'] ∧ !isSpaceOrTab (first line) ∧ !isSpaceOrTab (first gap.rest) then
    if gap.breaks.isEmpty then [' '] else []
  else lineBreak

/-- The lines of a block scalar with its last break and the gap behind it. The last argument but one
bounds the number of lines. -/
def blockLines (folded : Bool) (indent : Nat) (lineBreak : List Char) :
    Nat → BlockGap → List Char × List Char × BlockGap
  | 0, gap => ([], lineBreak, gap)
  | fuel + 1, gap =>
    if gap.column ≠ indent ∨ gap.rest.isEmpty then ([], lineBreak, gap)
    else
      let line := gap.rest.takeWhile (!isBreakOrEnd ·)
      let (b, after) := takeBreak (gap.rest.dropWhile (!isBreakOrEnd ·))
      let next := lineGap indent 0 (after.length + 1) after
      let joint :=
        if next.column = indent ∧ !next.rest.isEmpty then joinLines folded line b next else []
      let (more, last, final) := blockLines folded indent b fuel next
      (gap.breaks ++ line ++ joint ++ more, last, final)

/-- A block scalar behind its bar or angle, in a block indented by `outer` blanks or in none, and what
follows it. -/
def readBlock? (folded : Bool) (outer : Int) (cs : List Char) : Option (List Char × List Char) :=
  match blockHeader? cs with
  | none => none
  | some (header, rest) =>
    let least := (max 1 (outer + 1)).toNat
    let (indent, gap) := match header.increment with
      | some n => (least + n - 1, lineGap (least + n - 1) 0 (rest.length + 1) rest)
      | none =>
        let (gap, widest) := leadingGap 0 0 (rest.length + 1) rest
        (max least widest, gap)
    let (lines, last, final) := blockLines folded indent [] (rest.length + 1) gap
    let ending := match header.chomping with
      | .strip => []
      | .clip => last
      | .keep => last ++ final.breaks
    some (lines ++ ending, final.rest)

end Emission.Yaml
