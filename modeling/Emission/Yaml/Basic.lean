/-!
# Characters of YAML

The classes of characters that decide where a scalar starts and ends. Where a text has ended, the
character zero stands for the end; no text that is read holds it.
-/

namespace Emission.Yaml

/-- A character that ends a line. -/
def isBreak (c : Char) : Bool :=
  c == '\n' || c == '\r' || c == '\u0085' || c == '\u2028' || c == '\u2029'

def isEnd (c : Char) : Bool := c == '\x00'

def isBreakOrEnd (c : Char) : Bool := isBreak c || isEnd c

def isSpaceOrTab (c : Char) : Bool := c == ' ' || c == '\t'

/-- A blank, a line break or the end. -/
def isGap (c : Char) : Bool := isSpaceOrTab c || isBreakOrEnd c

/-- The first character of a text, or zero. -/
def first (cs : List Char) : Char := cs.headD '\x00'

/-- The character after the first, or zero. -/
def second (cs : List Char) : Char := first (cs.drop 1)

/-- A character that a YAML text may hold. -/
def isAllowed (c : Char) : Bool :=
  let n := c.toNat
  n == 9 || n == 10 || n == 13 || (0x20 ≤ n && n ≤ 0x7E) || n == 0x85 || (0xA0 ≤ n && n ≤ 0xD7FF) ||
    (0xE000 ≤ n && n ≤ 0xFFFD) || 0x10000 ≤ n

/-- What a line break at the start of a text stands for, and what follows it. Without a break nothing is
taken. -/
def takeBreak : List Char → List Char × List Char
  | '\r' :: '\n' :: rest => (['\n'], rest)
  | c :: rest =>
    if c == '\r' || c == '\n' || c == '\u0085' then (['\n'], rest)
    else if c == '\u2028' || c == '\u2029' then ([c], rest)
    else ([], c :: rest)
  | [] => ([], [])

/-- A text starts with three dashes or dots and a gap, which at the start of a line ends a document. -/
def atSeparator (cs : List Char) : Bool :=
  (cs.take 3 == ['-', '-', '-'] || cs.take 3 == ['.', '.', '.']) && isGap (first (cs.drop 3))

/-- What a folded line break and the breaks behind it stand for: one blank, or the further breaks. -/
def foldBreaks (lineBreak breaks : List Char) : List Char :=
  if lineBreak ≠ ['\n'] then lineBreak ++ breaks
  else if breaks.isEmpty then [' ']
  else breaks

end Emission.Yaml
