/-!
# Values

The dynamic values of this library: what a configuration file holds, what a template is rendered with
and what its expressions compute.
-/

namespace Emission

/-- A value of a configuration file or a template.

The last three constructors are absent values: a name bound to nothing, a part that its whole lacks, and
an absence with its own explanation. If `shown` they print a placeholder, otherwise nothing. -/
inductive Value
  | none
  | bool (b : Bool)
  | int (n : Int)
  | float (x : Float)
  | text (s : String)
  /-- Text that is already safe to place in markup. -/
  | markup (s : String)
  | list (items : List Value)
  | tuple (items : List Value)
  /-- Keys and values in the order of first insertion, no two keys the same. -/
  | dict (entries : List (Value × Value))
  | range (start stop step : Int)
  /-- The function that builds ranges. -/
  | rangeBuilder
  /-- Where a loop stands: how many rounds are done and how many there are in all. -/
  | loop (index length : Nat)
  /-- What stands for a template in itself, by the name of the template if it has one. -/
  | template (name : Option String)
  | unbound (shown : Bool) (name : String)
  | lacking (shown : Bool) (whole key : Value)
  | unfounded (shown : Bool) (reason : String)
  deriving Inhabited, Repr

namespace Value

/-- The name of a value's kind, as messages give it. -/
def kind : Value → String
  | none => "NoneType"
  | bool _ => "bool"
  | int _ => "int"
  | float _ => "float"
  | text _ => "str"
  | markup _ => "Markup"
  | list _ => "list"
  | tuple _ => "tuple"
  | dict _ => "dict"
  | range .. => "range"
  | rangeBuilder => "type"
  | loop .. => "LoopContext"
  | template _ => "TemplateReference"
  | unbound shown _ | lacking shown _ _ | unfounded shown _ =>
    if shown then "DebugUndefined" else "Undefined"

def isNone : Value → Bool
  | none => true
  | _ => false

def isAbsent : Value → Bool
  | unbound .. | lacking .. | unfounded .. => true
  | _ => false

/-- The characters of a text, whether or not it is markup. -/
def text? : Value → Option String
  | text s | markup s => some s
  | _ => Option.none

def isText (v : Value) : Bool := v.text?.isSome

/-- The number a truth value or an integer stands for. -/
def int? : Value → Option Int
  | bool b => some (if b then 1 else 0)
  | int n => some n
  | _ => Option.none

/-! ## Ranges -/

/-- How many numbers a range holds. -/
def rangeLength (start stop step : Int) : Nat :=
  if step > 0 then ((stop - start + step - 1) / step).toNat
  else if step < 0 then ((start - stop - step - 1) / -step).toNat
  else 0

/-- The numbers of a range. -/
def rangeItems (start stop step : Int) : List Value :=
  (List.range (rangeLength start stop step)).map fun (i : Nat) => int (start + step * i)

/-! ## Size, truth and members -/

/-- How many members a value has, if it has any. -/
def length? : Value → Option Nat
  | text s | markup s => some s.length
  | list xs | tuple xs => some xs.length
  | dict es => some es.length
  | range start stop step => some (rangeLength start stop step)
  | loop _ length => some length
  | unbound .. | lacking .. | unfounded .. => some 0
  | _ => Option.none

/-- Does a value count as true? Nothing, zero, and whatever is empty or absent does not. -/
def truthy (v : Value) : Bool :=
  match v with
  | none => false
  | bool b => b
  | int n => n != 0
  | float x => x != 0.0
  | rangeBuilder | template _ => true
  | _ => v.length?.getD 0 != 0

/-- The members one meets in going through a value: characters, items or keys. -/
def members? : Value → Option (List Value)
  | text s | markup s => some (s.toList.map fun c => text (.singleton c))
  | list xs | tuple xs => some xs
  | dict es => some (es.map (·.1))
  | range start stop step => some (rangeItems start stop step)
  | unbound .. | lacking .. | unfounded .. => some []
  | _ => Option.none

@[simp] theorem members?_list (xs : List Value) : (list xs).members? = some xs := rfl

@[simp] theorem truthy_bool (b : Bool) : (bool b).truthy = b := rfl

@[simp] theorem truthy_text (s : String) : (text s).truthy = decide (s ≠ "") := by
  simp only [truthy, length?, Option.getD_some]
  by_cases h : s = ""
  · simp [h]
  · simp [bne_iff_ne, h]

/-- The kind of the first part that cannot serve as a key, if there is one. -/
def unkeyable? : Value → Option String
  | list _ => some "list"
  | dict _ => some "dict"
  | tuple xs => firstUnkeyable? xs
  | _ => Option.none
where
  firstUnkeyable? : List Value → Option String
    | [] => Option.none
    | v :: rest =>
      match v.unkeyable? with
      | some k => some k
      | Option.none => firstUnkeyable? rest

end Value

end Emission
