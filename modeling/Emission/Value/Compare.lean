import Emission.Text.Search
import Emission.Value.Equal
import Emission.Value.Misuse

/-!
# Comparison and containment

The comparisons of template expressions: any two values can be asked whether they are the same, and only
like values can be put in order.
-/

namespace Emission

inductive Comparison
  | equal | unequal | less | lessOrEqual | greater | greaterOrEqual | isIn | isNotIn
  deriving DecidableEq, Repr

namespace Comparison

/-- What an order comparison makes of an ordering. -/
def accepts : Comparison → Ordering → Bool
  | .less, o => o == .lt
  | .lessOrEqual, o => o != .gt
  | .greater, o => o == .gt
  | .greaterOrEqual, o => o != .lt
  | _, _ => false

def symbol : Comparison → String
  | .less => "<"
  | .lessOrEqual => "<="
  | .greater => ">"
  | .greaterOrEqual => ">="
  | _ => ""

end Comparison

namespace Value

def isNumber : Value → Bool
  | bool _ | int _ | float _ => true
  | _ => false

/-- The order of two lists, or the first pair of items that differ. -/
def firstDifference : List Value → List Value → Ordering ⊕ (Value × Value)
  | [], [] => .inl .eq
  | [], _ :: _ => .inl .lt
  | _ :: _, [] => .inl .gt
  | v :: vs, w :: ws => if same v w then firstDifference vs ws else .inr (v, w)

/-- Compares two values that are neither lists nor tuples. -/
def orderedAtoms (op : Comparison) (v w : Value) : Except Misuse Bool :=
  if v.isNumber && w.isNumber then
    .ok (match compareNumbers? v w with
      | some o => op.accepts o
      | Option.none => false)
  else
    match v.text?, w.text? with
    | some s, some t => .ok (op.accepts (compare s t))
    | _, _ =>
      if v.isAbsent then .error v.missed
      else if w.isAbsent then .error w.missed
      else .error (.unordered op.symbol v.kind w.kind)

/-- Puts two values in order as `op` asks; lists compare as their first differing items do. The depth
bounds how deep lists are nested. -/
def ordered (op : Comparison) : Nat → Value → Value → Except Misuse Bool
  | depth + 1, list vs, list ws => orderedItems depth vs ws
  | depth + 1, tuple vs, tuple ws => orderedItems depth vs ws
  | _, v, w => orderedAtoms op v w
where
  orderedItems (depth : Nat) (vs ws : List Value) : Except Misuse Bool :=
    match firstDifference vs ws with
    | .inl o => .ok (op.accepts o)
    | .inr (a, b) => ordered op depth a b

/-- Is the first value a member of the second? -/
def isMember (v whole : Value) : Except Misuse Bool :=
  match whole with
  | text s | markup s =>
    match v.text? with
    | some part => .ok (Text.contains part.toList s.toList)
    | Option.none => .error (.textWanted v.kind)
  | dict es => do
    checkKey v
    .ok (find? v es).isSome
  | _ =>
    match whole.members? with
    | some vs => .ok (vs.any (same v))
    | Option.none => .error (whole.unwalkable (.notContainer whole.kind))

/-- The depth to which lists are nested in a value. -/
def depth : Value → Nat
  | list xs | tuple xs => depthOf xs + 1
  | _ => 1
where
  depthOf : List Value → Nat
    | [] => 0
    | v :: rest => max (depth v) (depthOf rest)

/-- Compares two values. -/
def compared (op : Comparison) (v w : Value) : Except Misuse Bool :=
  match op with
  | .equal => .ok (same v w)
  | .unequal => .ok (!same v w)
  | .isIn => isMember v w
  | .isNotIn => (isMember v w).map (!·)
  | _ => ordered op (depth v + 1) v w

end Value

end Emission
