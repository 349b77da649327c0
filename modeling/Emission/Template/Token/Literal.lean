import Emission.Number.FloatText
import Emission.Text.Hex
import Emission.Template.Token

/-!
# Literals in templates

Numbers and quoted texts at the beginning of a list of characters.
-/

namespace Emission.Template

/-! ## Numbers -/

/-- The longest run of digits in which single underscores may stand before digits. -/
def digitRun (ok : Char → Bool) : List Char → List Char × List Char
  | '_' :: c :: rest =>
    if ok c then
      let (ds, after) := digitRun ok rest
      (c :: ds, after)
    else ([], '_' :: c :: rest)
  | c :: rest =>
    if ok c then
      let (ds, after) := digitRun ok rest
      (c :: ds, after)
    else ([], c :: rest)
  | [] => ([], [])

/-- A run of decimal digits that starts with a digit. -/
def decimalRun : List Char → List Char × List Char
  | c :: rest => if c.isDigit then digitRun Char.isDigit (c :: rest) else ([], c :: rest)
  | [] => ([], [])

/-- An exponent mark, a sign and digits: the exponent and the rest. -/
def exponent? : List Char → Option (Int × List Char)
  | c :: rest =>
    if c == 'e' || c == 'E' then
      let (negative, cs) := Number.splitSign rest
      match decimalRun cs with
      | ([], _) => none
      | (ds, after) =>
        let n : Int := Number.digitsValue ds
        some (if negative then -n else n, after)
    else none
  | [] => none

/-- A number with a fraction, an exponent or both. -/
def float? (cs : List Char) : Option (Float × List Char) :=
  match decimalRun cs with
  | ([], _) => none
  | (whole, rest) =>
    let (fraction, rest) := match rest with
      | '.' :: more =>
        match decimalRun more with
        | ([], _) => ([], rest)
        | found => found
      | _ => ([], rest)
    let value (e : Int) := Number.floatOfDecimal false (Number.digitsValue (whole ++ fraction))
      (e - fraction.length)
    match exponent? rest with
    | some (e, after) => some (value e, after)
    | none => if fraction.isEmpty then none else some (value 0, rest)

/-- Digits of another base behind its mark. -/
def based? (base : Nat) (ok : Char → Bool) (cs : List Char) : Option (Nat × List Char) :=
  match digitRun ok cs with
  | ([], _) => none
  | (ds, after) =>
    some (ds.foldl (fun n c => base * n + (Text.hexValue? c).getD 0) 0, after)

/-- A whole number: binary, octal or hexadecimal behind `0b`, `0o` or `0x`, decimal without leading
zeros, or zeros. -/
def integer? : List Char → Option (Nat × List Char)
  | '0' :: rest =>
    let prefixed := match rest with
      | m :: more =>
        if m == 'b' || m == 'B' then based? 2 (fun c => c == '0' || c == '1') more
        else if m == 'o' || m == 'O' then based? 8 (fun c => '0' ≤ c && c ≤ '7') more
        else if m == 'x' || m == 'X' then based? 16 Text.isHexDigit more
        else none
      | [] => none
    prefixed.or (some (0, (digitRun (· == '0') rest).2))
  | c :: rest =>
    if c.isDigit then
      let (ds, after) := digitRun Char.isDigit rest
      some (Number.digitsValue (c :: ds), after)
    else none
  | [] => none

/-! ## Quoted texts -/

/-- What stands before the closing quote, and what follows it. -/
def quotedBody? (quote : Char) : List Char → Option (List Char × List Char)
  | [] => none
  | ['\\'] => none
  | '\\' :: c :: rest => (quotedBody? quote rest).map fun (body, after) => ('\\' :: c :: body, after)
  | c :: rest =>
    if c = quote then some ([], rest)
    else (quotedBody? quote rest).map fun (body, after) => (c :: body, after)

/-- A text in ASCII, every other character as an escape of two, four or eight digits. -/
def asciiForm (cs : List Char) : List Char :=
  cs.flatMap fun c =>
    let n := c.toNat
    if n < 0x80 then [c]
    else if n < 0x100 then '\\' :: 'x' :: Text.hexFixed .lower 2 n
    else if n < 0x10000 then '\\' :: 'u' :: Text.hexFixed .lower 4 n
    else '\\' :: 'U' :: Text.hexFixed .lower 8 n

/-- What a backslash and one character stand for. -/
def simpleEscape? (c : Char) : Option Char :=
  match c with
  | '\\' => some '\\'
  | '\'' => some '\''
  | '"' => some '"'
  | 'a' => some '\x07'
  | 'b' => some '\x08'
  | 'f' => some '\x0c'
  | 'n' => some '\n'
  | 'r' => some '\r'
  | 't' => some '\t'
  | 'v' => some '\x0b'
  | _ => none

/-- How many digits follow an escape mark, and the name of the escape. -/
def hexEscape? (c : Char) : Option (Nat × String) :=
  match c with
  | 'x' => some (2, "\\xXX")
  | 'u' => some (4, "\\uXXXX")
  | 'U' => some (8, "\\UXXXXXXXX")
  | _ => none

def isOctal (c : Char) : Bool := '0' ≤ c && c ≤ '7'

/-- What is wrong with an escape by name: no name in braces follows, or the name is not known. -/
def nameFault (cs : List Char) : ParseFault :=
  match cs with
  | '\x7b' :: rest =>
    if rest.contains '\x7d' && rest.head? != some '\x7d' then
      .badEscape "unknown Unicode character name"
    else .badEscape "malformed \\N character escape"
  | _ => .badEscape "malformed \\N character escape"

/-- Resolves the escapes of a text; a backslash that starts none stands for itself. The first argument
bounds the number of steps. -/
def unescape : Nat → List Char → Except ParseFault (List Char)
  | 0, _ | _, [] => .ok []
  | fuel + 1, '\\' :: c :: rest =>
    match simpleEscape? c, hexEscape? c with
    | some d, _ => (unescape fuel rest).map (d :: ·)
    | none, some (width, form) =>
      let digits := rest.take width
      match if digits.length = width then Text.readHex? digits else none with
      | none => .error (.badEscape ("truncated " ++ form ++ " escape"))
      | some n =>
        if n > 0x10FFFF then .error (.badEscape "illegal Unicode character")
        else (unescape fuel (rest.drop width)).map (Char.ofNat n :: ·)
    | none, none =>
      if c = '\n' then unescape fuel rest
      else if isOctal c then
        let digits := c :: (rest.take 2).takeWhile isOctal
        let n := digits.foldl (fun n d => 8 * n + (d.toNat - 48)) 0
        (unescape fuel (rest.drop (digits.length - 1))).map (Char.ofNat n :: ·)
      else if c = 'N' then .error (nameFault rest)
      else (unescape fuel (c :: rest)).map ('\\' :: ·)
  | fuel + 1, c :: rest => (unescape fuel rest).map (c :: ·)

/-- The text that the characters between two quotes stand for. -/
def literalText (body : List Char) : Except ParseFault String :=
  let ascii := asciiForm body
  (unescape (ascii.length + 1) ascii).map String.ofList

end Emission.Template
