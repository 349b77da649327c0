import Emission.Escape.CodePoint

/-!
# Quoted literals

A text as a string literal of a target language: between quotes, each character by its short escape, as
itself, or as an escape of its code point.
-/

namespace Emission.Escape

/-- Short escapes: characters (as one-character texts) with what they are written as. -/
abbrev ShortEscapes := List (String × String)

/-- Backslash, double quote, newline, carriage return and tab, each behind a backslash. -/
def ShortEscapes.standard : ShortEscapes :=
  [("\\", "\\\\"), ("\"", "\\\""), ("\n", "\\n"), ("\r", "\\r"), ("\t", "\\t")]

/-- The short escape of a character. -/
def ShortEscapes.find? (table : ShortEscapes) (c : Char) : Option String :=
  List.lookup (String.singleton c) table

/-- ASCII characters from the space to the tilde. -/
def isPlain (c : Char) : Bool := ' ' ≤ c && c ≤ '~'

/-- A character inside a literal. -/
def escapeChar (style : CodePointStyle) (table : ShortEscapes) (quote : String) (c : Char) :
    List Char :=
  match table.find? c with
  | some short => short.toList
  | none =>
    if String.singleton c = quote then ['\\', c]
    else if isPlain c then [c]
    else escapeCode style c.toNat

/-- A text as a literal. -/
def escapeString (style : CodePointStyle) (table : ShortEscapes) (quote : String) (s : String) :
    String :=
  quote ++ .ofList (s.toList.flatMap (escapeChar style table quote)) ++ quote

@[simp] theorem toList_escapeString (style : CodePointStyle) (table : ShortEscapes)
    (quote s : String) :
    (escapeString style table quote s).toList =
      quote.toList ++ s.toList.flatMap (escapeChar style table quote) ++ quote.toList := by
  simp [escapeString]

end Emission.Escape
