import Emission.Text.Case
import Emission.Text.Hex
import Emission.Value.Arithmetic

/-!
# Text formats

The built-in formats of values, by name: upper and lower case, first letter in upper case, the form of a
query string and the form of XML content. A value under any other name is shown as plain text.
-/

namespace Emission.Escape

/-! ## Query strings -/

/-- Letters, digits and the four marks that stand for themselves in a query string. -/
def isUnreserved (c : Char) : Bool :=
  c.isAlphanum || c == '_' || c == '.' || c == '-' || c == '~'

/-- A percent sign and the two digits of a byte. -/
def percentByte (b : UInt8) : List Char := '%' :: Text.hexFixed .upper 2 b.toNat

/-- Percent-encodes all but the unreserved characters and those in `safe`. -/
def percentEncode (safe : List Char) (cs : List Char) : List Char :=
  cs.flatMap fun c =>
    if isUnreserved c || safe.contains c then [c]
    else (String.utf8EncodeChar c).flatMap percentByte

/-- The form of a text in a query string. A text with spaces is encoded with the spaces kept, which then
become plus signs. -/
def queryEncode (cs : List Char) : List Char :=
  if cs.contains ' ' then (percentEncode [' '] cs).map fun c => if c = ' ' then '+' else c
  else percentEncode [] cs

/-! ## XML -/

/-- The references of the three characters with a meaning in XML content. -/
def entity (c : Char) : List Char :=
  if c = '&' then ['&', 'a', 'm', 'p', ';']
  else if c = '<' then ['&', 'l', 't', ';']
  else if c = '>' then ['&', 'g', 't', ';']
  else [c]

/-- A character beyond ASCII, or a control other than tab, line feed and carriage return, as a numeric
reference. -/
def numericReference (c : Char) : List Char :=
  let n := c.toNat
  if n > 0x7F ∨ (n < 0x20 ∧ c ≠ '\t' ∧ c ≠ '\n' ∧ c ≠ '\r') then
    '&' :: '#' :: (Nat.toDigits 10 n ++ [';'])
  else [c]

/-- The form of a text in XML content. -/
def xmlEncode (cs : List Char) : List Char := (cs.flatMap entity).flatMap numericReference

/-! ## The formats by name -/

inductive Format
  | upper
  | lower
  | capitalized
  | query
  | xml
  deriving DecidableEq, Repr

namespace Format

/-- Every format has one name. -/
def name : Format → String
  | upper => "upper"
  | lower => "lower"
  | capitalized => "cap"
  | query => "url-encode"
  | xml => "xml-encode"

def all : List Format := [upper, lower, capitalized, query, xml]

def ofName? (name : String) : Option Format := all.find? fun f => f.name = name

def apply (s : String) : Format → String
  | upper => Text.upper s
  | lower => Text.lower s
  | capitalized => Text.capitalize s
  | query => .ofList (queryEncode s.toList)
  | xml => .ofList (xmlEncode s.toList)

@[simp] theorem ofName?_name (f : Format) : ofName? f.name = some f := by
  cases f <;> decide

end Format

/-- A value in the format of this name, or as plain text if no format has it. -/
def formatValue (v : Value) (mode : String) : String :=
  match Format.ofName? mode with
  | none => v.display
  | some f => f.apply v.display

/-- The same, unless the value cannot be written out. -/
def formatShown (v : Value) (mode : String) : Except Misuse String := v.shown.map fun _ => formatValue v mode

/-! ## Unicode escapes of the host -/

/-- Writes the backslash of each backslash-`u` as an escape of its own, so that a host which translates
unicode escapes before it reads the text finds a plain backslash there. -/
def reescapeChars : List Char → List Char
  | '\\' :: 'u' :: rest => '\\' :: 'u' :: '0' :: '0' :: '5' :: 'C' :: 'u' :: reescapeChars rest
  | c :: rest => c :: reescapeChars rest
  | [] => []

def reescape (s : String) : String := .ofList (reescapeChars s.toList)

@[simp] theorem toList_reescape (s : String) : (reescape s).toList = reescapeChars s.toList := by
  simp [reescape]

end Emission.Escape
