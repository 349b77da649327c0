/-!
# Floating-point numbers as ratios

The exact value of a double and the double nearest to a ratio. All arithmetic of this library that must
round once (reading a decimal, dividing integers, comparing with an integer) goes through these two.
-/

namespace Emission.Number

/-- A finite double is `± coefficient * 2 ^ exponent`. -/
structure BinaryParts where
  negative : Bool
  coefficient : Nat
  exponent : Int
  deriving DecidableEq, Repr

inductive FloatForm
  | nan
  | infinite (negative : Bool)
  | finite (parts : BinaryParts)
  deriving DecidableEq, Repr

/-- What the bits of a double stand for. -/
def FloatForm.of (x : Float) : FloatForm :=
  let bits := x.toBits.toNat
  let negative := bits / Nat.pow 2 63 = 1
  let field : Nat := bits / Nat.pow 2 52 % 2048
  let fraction := bits % Nat.pow 2 52
  if field = 2047 then if fraction = 0 then .infinite negative else .nan
  else if field = 0 then .finite ⟨negative, fraction, -1074⟩
  else .finite ⟨negative, fraction + Nat.pow 2 52, (field : Int) - 1075⟩

/-- Nearest integer to a ratio, the even one if two are equally near. -/
def divideToEven (num den : Nat) : Nat :=
  let q := num / den
  let twice := 2 * (num % den)
  if twice < den then q else if twice = den then q + q % 2 else q + 1

/-- The numerator and denominator of `num / den * 2 ^ shift`. -/
def scaleByTwo (num den : Nat) (shift : Int) : Nat × Nat :=
  match shift with
  | .ofNat k => (num * Nat.pow 2 k, den)
  | .negSucc k => (num, den * Nat.pow 2 (k + 1))

/-- The double nearest to a non-negative ratio, or nothing if it is too large. -/
def nearestFloat? (negative : Bool) (num den : Nat) : Option Float :=
  let sign := if negative then Nat.pow 2 63 else 0
  if num = 0 then some (Float.ofBits (UInt64.ofNat sign))
  else
    let guess : Int := (Nat.log2 num : Int) - Nat.log2 den - 52
    let below :=
      let (n, d) := scaleByTwo num den (-guess)
      n < d * Nat.pow 2 52
    let exponent := max (if below then guess - 1 else guess) (-1074)
    let (n, d) := scaleByTwo num den (-exponent)
    let rounded := divideToEven n d
    let (coefficient, exponent) :=
      if rounded = Nat.pow 2 53 then (Nat.pow 2 52, exponent + 1) else (rounded, exponent)
    if exponent > 971 then none
    else
      let bits :=
        if coefficient < Nat.pow 2 52 then coefficient
        else coefficient - Nat.pow 2 52 + (exponent + 1075).toNat * Nat.pow 2 52
      some (Float.ofBits (UInt64.ofNat (sign + bits)))

/-- The double nearest to an integer, or nothing if it is too large. -/
def floatOfInt? (n : Int) : Option Float := nearestFloat? (n < 0) n.natAbs 1

/-- Order of a finite double and an integer, exactly. -/
def compareToInt (p : BinaryParts) (n : Int) : Ordering :=
  let signed : Int := if p.negative then -p.coefficient else p.coefficient
  match p.exponent with
  | .ofNat k => compare (signed * (Nat.pow 2 k : Nat)) n
  | .negSucc k => compare signed (n * (Nat.pow 2 (k + 1) : Nat))

end Emission.Number
