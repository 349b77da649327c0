import Emission.Number.FloatText
import Emission.Text.Hex
import Emission.Value.Display

/-!
# Writing JSON

A value as a JSON text in ASCII: two blanks for each level, each item on a line of its own.
-/

namespace Emission.Json

/-! ## Texts -/

/-- A unit of sixteen bits as an escape. -/
def unitEscape (n : Nat) : List Char := '\\' :: 'u' :: Text.hexFixed .lower 4 n

/-- A character inside a text. Beyond ASCII and among the controls it is written as an escape, outside
the basic plane as two. -/
def textChar (c : Char) : List Char :=
  let n := c.toNat
  if c = '"' then ['\\', '"']
  else if c = '\\' then ['\\', '\\']
  else if c = '\n' then ['\\', 'n']
  else if c = '\r' then ['\\', 'r']
  else if c = '\t' then ['\\', 't']
  else if c = '\x08' then ['\\', 'b']
  else if c = '\x0c' then ['\\', 'f']
  else if ' ' ≤ c ∧ c ≤ '~' then [c]
  else if n < 0x10000 then unitEscape n
  else unitEscape (0xD800 + (n - 0x10000) / 0x400) ++ unitEscape (0xDC00 + (n - 0x10000) % 0x400)

/-- A text between quotes. -/
def textForm (s : String) : List Char := '"' :: s.toList.flatMap textChar ++ ['"']

/-! ## Values -/

/-- How numbers are written: NaN and the infinities are words. -/
def floatLayout : Number.Layout := { Number.plainTo16 with nan := "NaN", infinity := "Infinity" }

/-- A value that is neither list nor dictionary. -/
def atomText : Value → String
  | .none => "null"
  | .bool b => if b then "true" else "false"
  | .int n => toString n
  | .float x => floatLayout.float x
  | v => v.display

def atomForm : Value → List Char
  | .text s | .markup s => textForm s
  | v => (atomText v).toList

/-- A key is written as a text, whatever it is. -/
def keyForm (v : Value) : List Char :=
  match v with
  | .text s | .markup s => textForm s
  | v => textForm (atomText v)

/-- A line feed and two blanks for each level. -/
def lineStart (level : Nat) : List Char := '\n' :: List.replicate (2 * level) ' '

mutual

/-- A value inside so many levels. -/
def form (level : Nat) : Value → List Char
  | .list [] | .tuple [] => ['[', ']']
  | .list (v :: vs) | .tuple (v :: vs) =>
    '[' :: lineStart (level + 1) ++ form (level + 1) v ++ itemForms (level + 1) vs ++
      lineStart level ++ [']']
  | .dict [] => ['\x7b', '\x7d']
  | .dict ((k, v) :: es) =>
    '\x7b' :: lineStart (level + 1) ++ keyForm k ++ ':' :: ' ' :: form (level + 1) v ++
      entryForms (level + 1) es ++ lineStart level ++ ['\x7d']
  | v => atomForm v

/-- Items after the first, each behind a comma. -/
def itemForms (level : Nat) : List Value → List Char
  | [] => []
  | v :: rest => ',' :: lineStart level ++ form level v ++ itemForms level rest

/-- Entries after the first, each behind a comma. -/
def entryForms (level : Nat) : List (Value × Value) → List Char
  | [] => []
  | (k, v) :: rest =>
    ',' :: lineStart level ++ keyForm k ++ ':' :: ' ' :: form level v ++ entryForms level rest

end

/-- A value as a text. -/
def write (v : Value) : String := .ofList (form 0 v)

end Emission.Json
