import Emission.Number.Binary

/-!
# Shortest decimals

The decimal with the fewest digits that reads back as a given double. For one digit, two digits and so
on, the two neighbours of the double on that decimal grid are tried; the first grid that has one inside
the interval of numbers that round to the double gives the answer, the nearer of two.
-/

namespace Emission.Number

/-- The positive decimal `digits * 10 ^ exponent`. -/
structure Decimal where
  digits : Nat
  exponent : Int
  deriving DecidableEq, Repr

/-- The numbers that round to a double, over a common denominator, with the double among them. -/
structure RoundingInterval where
  low : Nat
  center : Nat
  high : Nat
  den : Nat
  closed : Bool
  deriving Repr

/-- The interval around `coefficient * 2 ^ exponent`: half a step up, half a step down, and only a
quarter down from a power of two. The ends belong to it if the coefficient is even. -/
def RoundingInterval.of (coefficient : Nat) (exponent : Int) : RoundingInterval :=
  let down := if coefficient = Nat.pow 2 52 ∧ exponent > -1074 then 1 else 2
  let (unit, den) := match exponent - 2 with
    | .ofNat k => (Nat.pow 2 k, 1)
    | .negSucc k => (1, Nat.pow 2 (k + 1))
  { low := (4 * coefficient - down) * unit
    center := 4 * coefficient * unit
    high := (4 * coefficient + 2) * unit
    den
    closed := coefficient % 2 = 0 }

/-- How many digits stand before the decimal point; not positive if zeros follow it. -/
def RoundingInterval.magnitude (r : RoundingInterval) : Int :=
  if r.den ≤ r.center then ((Nat.toDigits 10 (r.center / r.den)).length : Int)
  else -(zeros 330 (10 * r.center))
where
  zeros : Nat → Nat → Nat
    | 0, _ => 0
    | fuel + 1, n => if r.den ≤ n then 0 else zeros fuel (10 * n) + 1

/-- The grid point next to the center on the grid of step `10 ^ exponent` that lies in the interval. -/
def RoundingInterval.onGrid? (r : RoundingInterval) (exponent : Int) : Option Nat :=
  let (scale, den) := match exponent with
    | .ofNat k => (1, r.den * Nat.pow 10 k)
    | .negSucc k => (Nat.pow 10 (k + 1), r.den)
  let inside (g : Nat) : Bool :=
    if r.closed then r.low * scale ≤ g * den && g * den ≤ r.high * scale
    else r.low * scale < g * den && g * den < r.high * scale
  let center := r.center * scale
  let lower := center / den
  let upper := lower + 1
  match inside lower, inside upper with
  | true, true =>
    let below := center - lower * den
    let above := upper * den - center
    some (if below < above then lower else if above < below then upper
      else if lower % 2 = 0 then lower else upper)
  | true, false => some lower
  | false, true => some upper
  | false, false => none

/-- A decimal without trailing zeros. -/
def Decimal.normalize (d : Decimal) : Decimal := go (Nat.toDigits 10 d.digits).length d
where
  go : Nat → Decimal → Decimal
    | 0, d => d
    | fuel + 1, d =>
      if d.digits ≠ 0 ∧ d.digits % 10 = 0 then go fuel ⟨d.digits / 10, d.exponent + 1⟩ else d

/-- The first grid with a point in the interval, from `count` digits on. -/
def RoundingInterval.shortest (r : RoundingInterval) (magnitude : Int) : Nat → Nat → Decimal
  | 0, _ => ⟨r.center / r.den, 0⟩
  | fuel + 1, count =>
    match r.onGrid? (magnitude - count) with
    | some g => Decimal.normalize ⟨g, magnitude - count⟩
    | none => r.shortest magnitude fuel (count + 1)

/-- The shortest decimal that reads back as the positive double `coefficient * 2 ^ exponent`. -/
def shortestDecimal (coefficient : Nat) (exponent : Int) : Decimal :=
  let r := RoundingInterval.of coefficient exponent
  r.shortest r.magnitude 17 1

end Emission.Number
