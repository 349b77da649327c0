import Emission.Text.Printable
import Emission.Value.Display

/-!
# What cannot be done with a value

The ways in which an operation on values fails, and the message of each.
-/

namespace Emission

/-- A division by zero, by what was asked for: of integers their ratio, quotient or remainder, the same
of doubles, or a negative power of zero. -/
inductive ZeroDivision
  | wholeRatio | wholeQuotient | wholeRemainder
  | ratio | quotient | remainder
  | negativePower
  deriving DecidableEq, Repr

def ZeroDivision.message : ZeroDivision → String
  | wholeRatio => "division by zero"
  | wholeQuotient => "integer division or modulo by zero"
  | wholeRemainder => "integer modulo by zero"
  | ratio => "float division by zero"
  | quotient => "float floor division by zero"
  | remainder => "float modulo"
  | negativePower => "0.0 cannot be raised to a negative power"

/-- A result that no double is near to: an integer as a double, the ratio of two integers, a power. -/
inductive Overflow
  | conversion | ratio | power
  deriving DecidableEq, Repr

def Overflow.message : Overflow → String
  | conversion => "int too large to convert to float"
  | ratio => "integer division result too large for a float"
  | power => "(34, 'Numerical result out of range')"

/-- An operation that its operands do not admit. Kinds are the names that `Value.kind` gives. -/
inductive Misuse
  | notIterable (kind : String)
  | notReversible (kind : String)
  | noLength (kind : String)
  | notCallable (kind : String)
  | notSubscriptable (kind : String)
  | unhashable (kind : String)
  | noAttribute (kind name : String)
  | badOperands (operator left right : String)
  | badOperand (operator kind : String)
  | notConcatenable (whole part : String)
  | notRepeatable (kind : String)
  | unordered (operator left right : String)
  | notContainer (kind : String)
  | textWanted (kind : String)
  | integerWanted (kind : String)
  | surplusFormatArguments
  | divisionByZero (asked : ZeroDivision)
  | overflow (asked : Overflow)
  | zeroRangeStep
  | zeroSliceStep
  | sliceIndex
  | wrongArguments (message : String)
  /-- An integer is too long to be written out. -/
  | longInteger
  | notUnpackable (kind : String)
  /-- A template was gone through, as if its blocks were numbered. -/
  | noBlock
  | tooManyToUnpack (expected : Nat)
  | tooFewToUnpack (expected got : Nat)
  /-- An absent value was used as if it were there. -/
  | absent (message : String)
  deriving DecidableEq, Repr

namespace Misuse

private def single (s : String) : String := "'" ++ s ++ "'"

def message : Misuse → String
  | notIterable k => single k ++ " object is not iterable"
  | notReversible k => single k ++ " object is not reversible"
  | noLength k => "object of type " ++ single k ++ " has no len()"
  | notCallable k => single k ++ " object is not callable"
  | notSubscriptable k => single k ++ " object is not subscriptable"
  | unhashable k => "unhashable type: " ++ single k
  | noAttribute k name => single k ++ " object has no attribute " ++ single name
  | badOperands op l r =>
    "unsupported operand type(s) for " ++ op ++ ": " ++ single l ++ " and " ++ single r
  | badOperand op k => "bad operand type for unary " ++ op ++ ": " ++ single k
  | notConcatenable whole part =>
    "can only concatenate " ++ whole ++ " (not \"" ++ part ++ "\") to " ++ whole
  | notRepeatable k => "can't multiply sequence by non-int of type " ++ single k
  | unordered op l r =>
    single op ++ " not supported between instances of " ++ single l ++ " and " ++ single r
  | notContainer k => "argument of type " ++ single k ++ " is not iterable"
  | textWanted k => "'in <string>' requires string as left operand, not " ++ k
  | integerWanted k => single k ++ " object cannot be interpreted as an integer"
  | surplusFormatArguments => "not all arguments converted during string formatting"
  | divisionByZero z => z.message
  | overflow o => o.message
  | wrongArguments m | absent m => m
  | longInteger =>
    "Exceeds the limit (" ++ toString Value.digitLimit ++ " digits) for integer string conversion; " ++
      "use sys.set_int_max_str_digits() to increase the limit"
  | zeroRangeStep => "range() arg 3 must not be zero"
  | zeroSliceStep => "slice step cannot be zero"
  | sliceIndex => "slice indices must be integers or None or have an __index__ method"
  | notUnpackable k => "cannot unpack non-iterable " ++ k ++ " object"
  | noBlock => "0"
  | tooManyToUnpack n => "too many values to unpack (expected " ++ toString n ++ ")"
  | tooFewToUnpack n got =>
    "not enough values to unpack (expected " ++ toString n ++ ", got " ++ toString got ++ ")"

end Misuse

namespace Value

/-- Why an absent value is absent. -/
def absence : Value → String
  | unbound _ name => Text.quoted name ++ " is undefined"
  | lacking _ whole (text key) =>
    Text.quoted whole.wholeName ++ " has no attribute " ++ Text.quoted key
  | lacking _ whole key => whole.wholeName ++ " has no element " ++ key.inner
  | unfounded _ reason => reason
  | _ => ""

/-- What goes wrong when an absent value is used as if it were there. A key that cannot be written out cannot be
told. -/
def missed (v : Value) : Misuse :=
  match v with
  | lacking _ _ key => if key.isLegible then .absent v.absence else .longInteger
  | v => .absent v.absence

/-- Why a value without members cannot be gone through, if it is no template. -/
def unwalkable (v : Value) (m : Misuse) : Misuse :=
  match v with
  | template _ => .noBlock
  | _ => m

/-- The members of a value that has any. -/
def members (v : Value) : Except Misuse (List Value) :=
  match v.members? with
  | some vs => .ok vs
  | Option.none => .error (v.unwalkable (.notIterable v.kind))

/-- What is written out of a value: of a part that is missing, the key. -/
def written : Value → Value
  | lacking true _ key => key
  | v => v

/-- The text of a value that stands alone, if it can be written out. -/
def shown (v : Value) : Except Misuse String :=
  if v.written.isLegible then .ok v.display else .error .longInteger

@[simp] theorem shown_text (s : String) : (text s).shown = .ok s := rfl

@[simp] theorem shown_none : none.shown = .ok "None" := rfl

/-- Fails if a value cannot serve as a key. -/
def checkKey (v : Value) : Except Misuse Unit :=
  match v.unkeyable? with
  | some k => .error (.unhashable k)
  | Option.none => .ok ()

end Value

end Emission
