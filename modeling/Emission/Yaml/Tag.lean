import Emission.Number.FloatText
import Emission.Text.Case
import Emission.Text.Hex
import Emission.Value.Display
import Emission.Yaml.Spelling

/-!
# Types of scalars

What a text without quotes stands for: a text, or, if it is spelled like one, nothing, a truth value, a
number or a date.
-/

namespace Emission.Yaml

/-- The types of values. -/
inductive Tag
  | nothing | truth | integer | float | date | merge | value | text | sequence | mapping
  /-- A type that no value of this library has. -/
  | unknown
  deriving DecidableEq, Repr

namespace Tag

/-- The type of a text that stands without quotes. -/
def ofPlain (s : List Char) : Tag :=
  if Spelling.truthWords.accepts s then truth
  else if Spelling.floatForm.accepts s then float
  else if Spelling.integerForm.accepts s then integer
  else if s = ['<', '<'] then merge
  else if Spelling.nothingWords.accepts s then nothing
  else if Spelling.dateForm.accepts s then date
  else if s = ['='] then value
  else text

/-- The names of the types behind the prefix of the standard. -/
def standard (name : String) : Tag :=
  match name with
  | "null" => nothing
  | "bool" => truth
  | "int" => integer
  | "float" => float
  | "str" => text
  | "seq" => sequence
  | "map" => mapping
  | "timestamp" => date
  | _ => unknown

/-! ## Values -/

/-- A truth value by its word, in any case. -/
def readTruth? (s : String) : Option Bool :=
  match Text.lower s with
  | "yes" | "true" | "on" => some true
  | "no" | "false" | "off" => some false
  | _ => none

/-- Underscores between digits mean nothing. -/
def withoutUnderscores (s : String) : List Char := s.toList.filter (· ≠ '_')

/-- The number that digits of a base spell. To the base ten there may not be more of them than are written out. -/
def digits? (base : Nat) (cs : List Char) : Option Nat :=
  if cs.isEmpty ∨ base = 10 ∧ Value.digitLimit < cs.length then none
  else
    cs.foldl (fun n? c =>
      match n?, Text.hexValue? c with
      | some n, some d => if d < base then some (base * n + d) else none
      | _, _ => none) (some 0)

/-- The groups between colons. -/
def groups : List Char → List (List Char)
  | [] => [[]]
  | c :: rest =>
    match groups rest with
    | [] => [[c]]
    | g :: gs => if c = ':' then [] :: g :: gs else (c :: g) :: gs

/-- The number that groups to the base sixty spell. -/
def sixtiesValue? (gs : List (List Char)) : Option Nat :=
  gs.foldl (fun n? g =>
    match n?, digits? 10 g with
    | some n, some d => some (60 * n + d)
    | _, _ => none) (some 0)

/-- An integer without its sign: binary, hexadecimal, octal behind a zero, to the base sixty or decimal. -/
def readMagnitude? : List Char → Option Nat
  | ['0'] => some 0
  | '0' :: 'b' :: rest => digits? 2 rest
  | '0' :: 'x' :: rest => digits? 16 rest
  | '0' :: rest => digits? 8 ('0' :: rest)
  | cs => if cs.contains ':' then sixtiesValue? (groups cs) else digits? 10 cs

def readInteger? (s : String) : Option Int :=
  let (negative, cs) := Number.splitSign (withoutUnderscores s)
  (readMagnitude? cs).map fun n => if negative then -n else n

/-- The doubles that groups spell, the last group first. -/
def groupFloats? (gs : List (List Char)) : Option (List Float) :=
  gs.foldl (fun xs? g =>
    match xs?, Number.readFloat? (.ofList g) with
    | some xs, some x => some (x :: xs)
    | _, _ => none) (some [])

/-- The double that groups to the base sixty spell, the last of them with a fraction. The sum starts with
the last group. -/
def sixtiesFloat? (gs : List (List Char)) : Option Float :=
  (groupFloats? gs).map fun xs =>
    (xs.foldl (fun (sum, unit) x => (sum + x * unit, 60.0 * unit)) (0.0, 1.0)).1

def readFloat? (s : String) : Option Float :=
  let (negative, cs) := Number.splitSign ((withoutUnderscores s).map Char.toLower)
  let size? :=
    if cs = ".inf".toList then some (1.0 / 0.0)
    else if cs = ".nan".toList then some (0.0 / 0.0)
    else if cs.contains ':' then sixtiesFloat? (groups cs)
    else Number.readFloat? (.ofList cs)
  size?.map fun x => if negative then -x else x

/-! ## Dates -/

/-- The numbers that the runs of digits in a text spell. -/
def numbersIn (cs : List Char) : List Nat :=
  (cs.splitBy fun a b => a.isDigit == b.isDigit).filterMap fun run =>
    if run.all Char.isDigit then some (Number.digitsValue run) else none

def isLeapYear (y : Nat) : Bool := y % 4 = 0 && (y % 100 ≠ 0 || y % 400 = 0)

/-- How many days a month has. -/
def daysIn (year month : Nat) : Nat :=
  if month = 2 then if isLeapYear year then 29 else 28
  else if month ∈ [4, 6, 9, 11] then 30
  else 31

/-- There is such a day. -/
def isDay (year month day : Nat) : Bool :=
  1 ≤ year && 1 ≤ month && month ≤ 12 && 1 ≤ day && day ≤ daysIn year month

/-- The hours and minutes of a zone, which is less than a day away: what stands behind the last sign of a
time, if it has one. -/
def isZone (time : List Char) : Bool :=
  let zone := (time.reverse.takeWhile fun c => c != '+' && c != '-').reverse
  if zone.length = time.length then true
  else
    match numbersIn zone with
    | [hours] => hours < 24
    | [hours, minutes] => 60 * hours + minutes < 24 * 60
    | _ => true

/-- A text in the form of a date names a day, and a time of it if there is one. -/
def isDate (cs : List Char) : Bool :=
  match numbersIn cs with
  | [year, month, day] => isDay year month day
  | year :: month :: day :: hour :: minute :: second :: _ =>
    isDay year month day && hour < 24 && minute < 60 && second < 60 &&
      isZone (cs.dropWhile (· ≠ ':'))
  | _ => false

/-- The value of a scalar of a type. A date is kept as the text that spells it. -/
def scalar? (tag : Tag) (s : String) : Option Value :=
  match tag with
  | nothing => some .none
  | truth => (readTruth? s).map .bool
  | integer => (readInteger? s).map .int
  | float => (readFloat? s).map .float
  | date => if isDate s.toList then some (.text s) else none
  | text => some (.text s)
  | merge | value | sequence | mapping | unknown => none

end Tag

end Emission.Yaml
