import Emission.Number.Shortest

/-!
# The text of a floating-point number

Writing and reading doubles. What a written number looks like is decided in one place, `plainTo16`.
-/

namespace Emission.Number

/-- How a shortest decimal is laid out. -/
structure Layout where
  /-- Smallest decimal exponent of the first digit that is written without an exponent. -/
  leastPlain : Int
  /-- Smallest decimal exponent of the first digit that is again written with one. -/
  firstScientific : Int
  /-- Least number of digits of a written exponent. -/
  exponentDigits : Nat
  nan : String
  infinity : String

/-- Plain from `0.0001` to below `10 ^ 16`, with `.0` on whole numbers; otherwise `1e-05`, `1e+16`. -/
def plainTo16 : Layout := ⟨-4, 16, 2, "nan", "inf"⟩

/-- Digits with zeros in front up to a width. -/
def padDigits (width : Nat) (n : Nat) : List Char :=
  let ds := Nat.toDigits 10 n
  List.replicate (width - ds.length) '0' ++ ds

/-- The text of a positive decimal. -/
def Layout.decimal (f : Layout) (d : Decimal) : List Char :=
  let ds := Nat.toDigits 10 d.digits
  let lead : Int := (ds.length : Int) + d.exponent - 1
  if f.leastPlain ≤ lead ∧ lead < f.firstScientific then
    if lead < 0 then '0' :: '.' :: List.replicate (-lead - 1).toNat '0' ++ ds
    else
      let whole := (lead + 1).toNat
      let padded := ds ++ List.replicate (whole - ds.length) '0'
      let rest := padded.drop whole
      padded.take whole ++ '.' :: (if rest.isEmpty then ['0'] else rest)
  else
    let mantissa := match ds with
      | [] => []
      | [c] => [c]
      | c :: rest => c :: '.' :: rest
    let sign := if lead < 0 then '-' else '+'
    mantissa ++ 'e' :: sign :: padDigits f.exponentDigits lead.natAbs

/-- The text of a double. -/
def Layout.float (f : Layout) (x : Float) : String :=
  match FloatForm.of x with
  | .nan => f.nan
  | .infinite negative => if negative then "-" ++ f.infinity else f.infinity
  | .finite p =>
    let size := if p.coefficient = 0 then ['0', '.', '0']
      else f.decimal (shortestDecimal p.coefficient p.exponent)
    .ofList (if p.negative then '-' :: size else size)

def floatText (x : Float) : String := plainTo16.float x

/-! ## Reading -/

/-- The double nearest to `digits * 10 ^ exponent`; infinite if that is too large. -/
def floatOfDecimal (negative : Bool) (digits : Nat) (exponent : Int) : Float :=
  let lead : Int := (Nat.toDigits 10 digits).length + exponent
  let found :=
    if digits = 0 ∨ lead < -400 then nearestFloat? negative 0 1
    else if lead > 400 then none
    else
      match exponent with
      | .ofNat k => nearestFloat? negative (digits * Nat.pow 10 k) 1
      | .negSucc k => nearestFloat? negative digits (Nat.pow 10 (k + 1))
  found.getD (if negative then -(1.0 / 0.0) else 1.0 / 0.0)

/-- The number that decimal digits spell. -/
def digitsValue (cs : List Char) : Nat := cs.foldl (fun n c => 10 * n + (c.toNat - 48)) 0

/-- A run of digits and the rest. -/
def spanDigits (cs : List Char) : List Char × List Char :=
  (cs.takeWhile Char.isDigit, cs.dropWhile Char.isDigit)

/-- A sign in front of a text: is it a minus, and what follows. -/
def splitSign : List Char → Bool × List Char
  | '-' :: rest => (true, rest)
  | '+' :: rest => (false, rest)
  | cs => (false, cs)

/-- An exponent mark with its digits, or nothing written. -/
def readExponent? : List Char → Option Int
  | [] => some 0
  | c :: rest =>
    if c == 'e' || c == 'E' then
      let (negative, cs) := splitSign rest
      let (ds, after) := spanDigits cs
      if ds.isEmpty || !after.isEmpty then none
      else some (if negative then -(digitsValue ds) else digitsValue ds)
    else none

/-- An unsigned decimal: digits, perhaps a point among or beside them, perhaps an exponent. -/
def readDecimal? (negative : Bool) (cs : List Char) : Option Float :=
  let (whole, rest) := spanDigits cs
  let (fraction, rest) := match rest with
    | '.' :: more => spanDigits more
    | _ => ([], rest)
  if whole.isEmpty && fraction.isEmpty then none
  else
    match readExponent? rest with
    | none => none
    | some e =>
      some (floatOfDecimal negative (digitsValue (whole ++ fraction)) (e - fraction.length))

/-- Reads a decimal, an infinity or a NaN, with or without a sign. -/
def readFloat? (s : String) : Option Float :=
  let (negative, cs) := splitSign s.toList
  let word := String.ofList (cs.map Char.toLower)
  if word = "inf" ∨ word = "infinity" then
    some (if negative then -(1.0 / 0.0) else 1.0 / 0.0)
  else if word = "nan" then some (0.0 / 0.0)
  else readDecimal? negative cs

end Emission.Number
