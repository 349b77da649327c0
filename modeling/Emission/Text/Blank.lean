/-!
# Blank characters and line breaks

White space as the template language sees it, and the two ways a text is cut into lines: at line
feeds after every other newline has been turned into one, and at any Unicode line boundary.
-/

namespace Emission.Text

/-- White space, including the separator controls and the Unicode spaces. -/
def isBlank (c : Char) : Bool :=
  let n := c.toNat
  n == 32 || (9 ≤ n && n ≤ 13) || (28 ≤ n && n ≤ 31) || n == 0x85 || n == 0xA0 || n == 0x1680 ||
    (0x2000 ≤ n && n ≤ 0x200A) || n == 0x2028 || n == 0x2029 || n == 0x202F || n == 0x205F ||
    n == 0x3000

/-- A text without its trailing blanks. -/
def trimRight (cs : List Char) : List Char := (cs.reverse.dropWhile isBlank).reverse

/-- A text without its leading and trailing blanks. -/
def trim (s : String) : String := .ofList (trimRight (s.toList.dropWhile isBlank))

/-- Carriage returns, alone or before a line feed, become line feeds. -/
def unifyNewlines : List Char → List Char
  | [] => []
  | '\r' :: '\n' :: rest => '\n' :: unifyNewlines rest
  | '\r' :: rest => '\n' :: unifyNewlines rest
  | c :: rest => c :: unifyNewlines rest

/-- A character that ends a line: the newlines, the vertical controls and the Unicode separators. -/
def isLineBoundary (c : Char) : Bool :=
  c == '\n' || c == '\r' || c == '\x0b' || c == '\x0c' || c == '\x1c' || c == '\x1d' ||
    c == '\x1e' || c == '\u0085' || c == '\u2028' || c == '\u2029'

/-- The lines of a text, without their boundaries; nothing follows a boundary at the end. -/
def lines : List Char → List (List Char)
  | [] => []
  | '\r' :: '\n' :: rest => [] :: lines rest
  | c :: rest =>
    if isLineBoundary c then [] :: lines rest
    else
      match rest with
      | [] => [[c]]
      | d :: rest' =>
        if isLineBoundary d then
          match lines (d :: rest') with
          | [] => [[c]]
          | _ :: more => [c] :: more
        else
          match lines (d :: rest') with
          | [] => [[c]]
          | line :: more => (c :: line) :: more

end Emission.Text
