import Emission.Number.FloatText
import Emission.Text.Hex
import Emission.Value.Display
import Emission.Value.Equal

/-!
# Reading JSON

A JSON text as a value. Beside the standard numbers the three words `NaN`, `Infinity` and `-Infinity`
are read; of several values under one key the last one counts.
-/

namespace Emission.Json

def isSpace (c : Char) : Bool := c == ' ' || c == '\t' || c == '\n' || c == '\r'

def skipSpace (cs : List Char) : List Char := cs.dropWhile isSpace

/-! ## Texts -/

/-- What a backslash and one character stand for. -/
def escaped? (c : Char) : Option Char :=
  match c with
  | '"' => some '"'
  | '\\' => some '\\'
  | '/' => some '/'
  | 'b' => some '\x08'
  | 'f' => some '\x0c'
  | 'n' => some '\n'
  | 'r' => some '\r'
  | 't' => some '\t'
  | _ => none

/-- The number that four digits spell. -/
def unit? (a b c d : Char) : Option Nat := Text.readHex? [a, b, c, d]

/-- The character of two units of a surrogate pair. -/
def joinUnits (high low : Nat) : Char := Char.ofNat (0x10000 + (high - 0xD800) * 0x400 + (low - 0xDC00))

/-- The character of a unit that stands alone; half a pair is no character. -/
def loneUnit (n : Nat) : Char := if 0xD800 ≤ n ∧ n ≤ 0xDFFF then '\uFFFD' else Char.ofNat n

def isHighUnit (n : Nat) : Bool := 0xD800 ≤ n && n ≤ 0xDBFF

def isLowUnit (n : Nat) : Bool := 0xDC00 ≤ n && n ≤ 0xDFFF

/-- The low unit of an escape at the start of a text, and what follows it. -/
def lowUnit? : List Char → Option (Nat × List Char)
  | '\\' :: 'u' :: a :: b :: c :: d :: rest =>
    match unit? a b c d with
    | some n => if isLowUnit n then some (n, rest) else none
    | none => none
  | _ => none

theorem length_of_lowUnit? {cs rest : List Char} {n : Nat} (h : lowUnit? cs = some (n, rest)) :
    rest.length < cs.length := by
  unfold lowUnit? at h
  split at h
  · split at h
    · split at h
      · cases h
        simp only [List.length_cons]
        omega
      · cases h
    · cases h
  · cases h

/-- The text up to a closing quote, and what follows the quote. -/
def readText? : List Char → Option (List Char × List Char)
  | [] => none
  | '"' :: rest => some ([], rest)
  | '\\' :: 'u' :: a :: b :: c :: d :: rest =>
    match unit? a b c d with
    | none => none
    | some n =>
      match _h : if isHighUnit n then lowUnit? rest else none with
      | some (low, rest') =>
        (readText? rest').map fun (s, after) => (joinUnits n low :: s, after)
      | none => (readText? rest).map fun (s, after) => (loneUnit n :: s, after)
  | '\\' :: c :: rest =>
    match escaped? c with
    | some d => (readText? rest).map fun (s, after) => (d :: s, after)
    | none => none
  | c :: rest =>
    if c.toNat < 0x20 ∨ c = '\\' then none
    else (readText? rest).map fun (s, after) => (c :: s, after)
termination_by cs => cs.length
decreasing_by
  all_goals simp_wf
  all_goals try omega
  split at _h
  · have := length_of_lowUnit? _h
    omega
  · cases _h

/-! ## Numbers -/

/-- A whole part without needless zeros in front, and what follows it. -/
def wholePart? (cs : List Char) : Option (List Char × List Char) :=
  match cs with
  | '0' :: rest => some (['0'], rest)
  | cs =>
    match Number.spanDigits cs with
    | ([], _) => none
    | found => some found

/-- A point with digits behind it, if there is one. -/
def fractionPart : List Char → List Char × List Char
  | '.' :: rest =>
    match Number.spanDigits rest with
    | ([], _) => ([], '.' :: rest)
    | (ds, after) => ('.' :: ds, after)
  | cs => ([], cs)

/-- An exponent, if there is one. -/
def exponentPart : List Char → List Char × List Char
  | e :: rest =>
    if e == 'e' || e == 'E' then
      let (sign, digits) := match rest with
        | '+' :: more => (['+'], more)
        | '-' :: more => (['-'], more)
        | more => ([], more)
      match Number.spanDigits digits with
      | ([], _) => ([], e :: rest)
      | (ds, after) => (e :: sign ++ ds, after)
    else ([], e :: rest)
  | [] => ([], [])

/-- A number at the start of a text: an integer if it has neither fraction nor exponent. An integer may not have more
digits than one that is written out. -/
def number? (cs : List Char) : Option (Value × List Char) :=
  let (negative, digits) := match cs with
    | '-' :: rest => (true, rest)
    | cs => (false, cs)
  match wholePart? digits with
  | none => none
  | some (whole, rest) =>
    let (fraction, rest) := fractionPart rest
    let (exponent, rest) := exponentPart rest
    if fraction.isEmpty && exponent.isEmpty then
      let n : Int := Number.digitsValue whole
      if whole.length ≤ Value.digitLimit then some (.int (if negative then -n else n), rest) else none
    else
      (Number.readDecimal? negative (whole ++ fraction ++ exponent)).map fun x => (.float x, rest)

/-- The words that stand for values. -/
def words : List (String × Value) :=
  [("null", .none), ("true", .bool true), ("false", .bool false), ("NaN", .float (0.0 / 0.0)),
    ("Infinity", .float (1.0 / 0.0)), ("-Infinity", .float (-(1.0 / 0.0)))]

/-- What follows a word at the start of a text. -/
def afterWord? : List Char → List Char → Option (List Char)
  | [], cs => some cs
  | w :: ws, c :: cs => if w = c then afterWord? ws cs else none
  | _ :: _, [] => none

/-- A word or number at the start of a text. -/
def atom? (cs : List Char) : Option (Value × List Char) :=
  match words.findSome? fun (w, v) => (afterWord? w.toList cs).map (v, ·) with
  | some found => some found
  | none => number? cs

/-! ## Values -/

mutual

/-- A value at the start of a text, and what follows it. The first argument bounds the depth. -/
def readValue? : Nat → List Char → Option (Value × List Char)
  | 0, _ => none
  | fuel + 1, cs =>
    match cs with
    | '"' :: rest => (readText? rest).map fun (s, after) => (.text (.ofList s), after)
    | '[' :: rest =>
      match skipSpace rest with
      | ']' :: after => some (.list [], after)
      | rest => (readItems? fuel rest).map fun (vs, after) => (.list vs, after)
    | '\x7b' :: rest =>
      match skipSpace rest with
      | '\x7d' :: after => some (.dict [], after)
      | rest => (readEntries? fuel rest).map fun (es, after) => (Value.dictOf es, after)
    | cs => atom? cs

/-- The items of a list from the first one on, up to the closing bracket. -/
def readItems? : Nat → List Char → Option (List Value × List Char)
  | 0, _ => none
  | fuel + 1, cs =>
    match readValue? fuel cs with
    | none => none
    | some (v, rest) =>
      match skipSpace rest with
      | ']' :: after => some ([v], after)
      | ',' :: more =>
        (readItems? fuel (skipSpace more)).map fun (vs, after) => (v :: vs, after)
      | _ => none

/-- The entries of a dictionary from the first one on, up to the closing brace. -/
def readEntries? : Nat → List Char → Option (List (Value × Value) × List Char)
  | 0, _ => none
  | fuel + 1, cs =>
    match cs with
    | '"' :: rest =>
      match readText? rest with
      | none => none
      | some (k, rest) =>
        match skipSpace rest with
        | ':' :: rest =>
          match readValue? fuel (skipSpace rest) with
          | none => none
          | some (v, rest) =>
            match skipSpace rest with
            | '\x7d' :: after => some ([(.text (.ofList k), v)], after)
            | ',' :: more =>
              (readEntries? fuel (skipSpace more)).map fun (es, after) =>
                ((.text (.ofList k), v) :: es, after)
            | _ => none
        | _ => none
    | _ => none

end

/-- The value that a text spells, if it is JSON. -/
def read? (s : String) : Option Value :=
  let cs := s.toList
  match readValue? (cs.length + 1) (skipSpace cs) with
  | some (v, rest) => if (skipSpace rest).isEmpty then some v else none
  | none => none

end Emission.Json
