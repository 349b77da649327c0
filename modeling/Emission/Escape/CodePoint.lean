import Emission.Fault
import Emission.Value.Basic

/-!
# Code-point escapes

A code point written as `\u` with four digits, or, beyond the basic plane, as two such units or as `\U`
with eight digits.
-/

namespace Emission.Escape

/-- How a code point beyond the basic plane is escaped. -/
inductive CodePointStyle
  /-- As the two halves of its surrogate pair. -/
  | units
  /-- As one escape of eight digits. -/
  | wide
  deriving DecidableEq, Repr

/-- The largest code point. -/
def maxCodePoint : Nat := 0x10FFFF

/-- The largest code point of the basic plane. -/
def maxBasic : Nat := 0xFFFF

/-- A backslash, `u` and four digits. -/
def unitEscape (n : Nat) : List Char := '\\' :: 'u' :: Text.hexFixed .upper 4 n

/-- The escape of a code point. -/
def escapeCode (style : CodePointStyle) (n : Nat) : List Char :=
  if n ≤ maxBasic then unitEscape n
  else
    match style with
    | .units =>
      let offset := n - 0x10000
      unitEscape (0xD800 + offset / 0x400) ++ unitEscape (0xDC00 + offset % 0x400)
    | .wide => '\\' :: 'U' :: Text.hexFixed .upper 8 n

/-- The escape of a number, if it is a code point. -/
def escapeCodePoint (style : CodePointStyle) (n : Int) : Except Fault String :=
  if n < 0 ∨ n > maxCodePoint then .error (.codePointOutOfRange n)
  else .ok (.ofList (escapeCode style n.toNat))

/-- The escape of a value, if it is a code point; a truth value is none. -/
def escapeValue (style : CodePointStyle) : Value → Except Fault String
  | .int n => escapeCodePoint style n
  | v => .error (.codePointNotInteger v.kind)

end Emission.Escape
