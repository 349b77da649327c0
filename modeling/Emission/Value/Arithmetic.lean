import Emission.Value.Equal
import Emission.Value.Misuse

/-!
# Arithmetic on values

The operators of template expressions. Integers are exact; a quotient is a double; texts and lists can be
joined with `+` and repeated with `*`.
-/

namespace Emission

/-- The two-place operators. -/
inductive BinaryOp
  | add | sub | mul | div | floorDiv | mod | pow
  deriving DecidableEq, Repr

def BinaryOp.symbol : BinaryOp → String
  | .add => "+"
  | .sub => "-"
  | .mul => "*"
  | .div => "/"
  | .floorDiv => "//"
  | .mod => "%"
  | .pow => "** or pow()"

namespace Value

open Number (FloatForm)

/-- A number ready for arithmetic. -/
inductive Operand
  | whole (n : Int)
  | real (x : Float)

def operand? : Value → Option Operand
  | float x => some (.real x)
  | v => v.int?.map .whole

/-- A number as a double. -/
def Operand.toFloat : Operand → Except Misuse Float
  | .real x => .ok x
  | .whole n =>
    match Number.floatOfInt? n with
    | some x => .ok x
    | Option.none => .error (.overflow .conversion)

/-- The exact remainder of finite doubles, with the sign of the first. -/
def remainder (x y : Float) : Float :=
  match FloatForm.of x, FloatForm.of y with
  | .finite p, .finite q =>
    let e := min p.exponent q.exponent
    let a := p.coefficient * Nat.pow 2 (p.exponent - e).toNat
    let b := q.coefficient * Nat.pow 2 (q.exponent - e).toNat
    let (num, den) := Number.scaleByTwo (a % b) 1 e
    (Number.nearestFloat? p.negative num den).getD x
  | .finite _, .infinite _ => x
  | _, _ => 0.0 / 0.0

/-- Floored quotient and remainder of doubles; the remainder has the sign of the divisor. -/
def floorDivMod (x y : Float) : Float × Float :=
  let r := remainder x y
  let q := (x - r) / y
  let (q, r) :=
    if r == 0.0 then (q, if y < 0.0 then -0.0 else 0.0)
    else if (y < 0.0) != (r < 0.0) then (q - 1.0, r + y) else (q, r)
  if q == 0.0 then (if x / y < 0.0 then -0.0 else 0.0, r)
  else
    let f := q.floor
    (if q - f > 0.5 then f + 1.0 else f, r)

def floatArithmetic (op : BinaryOp) (x y : Float) : Except Misuse Value :=
  match op with
  | .add => .ok (float (x + y))
  | .sub => .ok (float (x - y))
  | .mul => .ok (float (x * y))
  | .div => if y == 0.0 then .error (.divisionByZero .ratio) else .ok (float (x / y))
  | .floorDiv =>
    if y == 0.0 then .error (.divisionByZero .quotient)
    else .ok (float (floorDivMod x y).1)
  | .mod =>
    if y == 0.0 then .error (.divisionByZero .remainder) else .ok (float (floorDivMod x y).2)
  | .pow =>
    if x == 0.0 && y < 0.0 then .error (.divisionByZero .negativePower)
    else
      let z := x.pow y
      if z.isInf && x.isFinite && y.isFinite then .error (.overflow .power) else .ok (float z)

def intArithmetic (op : BinaryOp) (m n : Int) : Except Misuse Value :=
  match op with
  | .add => .ok (int (m + n))
  | .sub => .ok (int (m - n))
  | .mul => .ok (int (m * n))
  | .div =>
    if n = 0 then .error (.divisionByZero .wholeRatio)
    else
      match Number.nearestFloat? ((m < 0) != (n < 0)) m.natAbs n.natAbs with
      | some x => .ok (float x)
      | Option.none => .error (.overflow .ratio)
  | .floorDiv =>
    if n = 0 then .error (.divisionByZero .wholeQuotient)
    else .ok (int (m.fdiv n))
  | .mod =>
    if n = 0 then .error (.divisionByZero .wholeRemainder) else .ok (int (m.fmod n))
  | .pow =>
    match n with
    | .ofNat k => .ok (int (Int.pow m k))
    | .negSucc _ => do
      floatArithmetic .pow (← Operand.toFloat (.whole m)) (← Operand.toFloat (.whole n))

def numberArithmetic (op : BinaryOp) : Operand → Operand → Except Misuse Value
  | .whole m, .whole n => intArithmetic op m n
  | a, b => do floatArithmetic op (← a.toFloat) (← b.toFloat)

/-- The text with the characters of markup replaced by references. -/
def escapeMarkup (s : String) : String :=
  .ofList <| s.toList.flatMap fun c =>
    if c = '&' then "&amp;".toList
    else if c = '<' then "&lt;".toList
    else if c = '>' then "&gt;".toList
    else if c = '\'' then "&#39;".toList
    else if c = '"' then "&#34;".toList
    else [c]

/-- A value as markup: markup as it is, all else escaped. -/
def asMarkup : Value → String
  | markup s => s
  | v => escapeMarkup v.display

/-- A text or list repeated. -/
def repeated (times : Int) : Value → Option Value
  | text s => some (text (.join (List.replicate times.toNat s)))
  | markup s => some (markup (.join (List.replicate times.toNat s)))
  | list xs => some (list (List.replicate times.toNat xs).flatten)
  | tuple xs => some (tuple (List.replicate times.toNat xs).flatten)
  | _ => Option.none

/-- `+` on what is not two numbers. -/
def concatenate (v w : Value) : Except Misuse Value :=
  match v, w with
  | text s, text t => .ok (text (s ++ t))
  | markup s, text _ | markup s, markup _ => .ok (markup (s ++ w.asMarkup))
  | text _, markup t => .ok (markup (v.asMarkup ++ t))
  | list xs, list ys => .ok (list (xs ++ ys))
  | tuple xs, tuple ys => .ok (tuple (xs ++ ys))
  | text _, _ | list _, _ | tuple _, _ => .error (.notConcatenable v.kind w.kind)
  | _, _ => .error (.badOperands "+" v.kind w.kind)

/-- `*` on what is not two numbers. -/
def multiply (v w : Value) : Except Misuse Value :=
  let repeatable (u : Value) : Bool := (repeated 0 u).isSome
  if repeatable v then
    match w.int? with
    | some n => .ok ((repeated n v).getD v)
    | Option.none => .error (.notRepeatable w.kind)
  else if repeatable w then
    match v.int? with
    | some n => .ok ((repeated n w).getD w)
    | Option.none => .error (.notRepeatable v.kind)
  else .error (.badOperands "*" v.kind w.kind)

/-- Applies a two-place operator. An absent operand fails with the reason of its absence. -/
def arithmetic (op : BinaryOp) (v w : Value) : Except Misuse Value :=
  match v.operand?, w.operand? with
  | some a, some b => numberArithmetic op a b
  | _, _ =>
    if v.isAbsent then .error v.missed
    else if op = .mod ∧ v.isText then .error .surplusFormatArguments
    else if w.isAbsent then .error w.missed
    else
      match op with
      | .add => concatenate v w
      | .mul => multiply v w
      | _ => .error (.badOperands op.symbol v.kind w.kind)

/-- A number with its sign changed or kept. -/
def signed (negate : Bool) (v : Value) : Except Misuse Value :=
  match v.operand? with
  | some (.whole n) => .ok (int (if negate then -n else n))
  | some (.real x) => .ok (float (if negate then -x else x))
  | Option.none =>
    if v.isAbsent then .error v.missed
    else .error (.badOperand (if negate then "-" else "+") v.kind)

end Value

end Emission
