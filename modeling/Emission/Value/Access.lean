import Emission.Value.Compare

/-!
# Parts of values

Members and items of a value. What is not there is an absent value that remembers where it was looked
for; looking for a part of an absent value fails.
-/

namespace Emission.Value

/-- What a loop tells about itself. -/
def loopMember? (index length : Nat) (name : String) : Option Value :=
  match name with
  | "index" => some (int (index + 1))
  | "index0" => some (int index)
  | "revindex" => some (int (length - index : Nat))
  | "revindex0" => some (int (length - index - 1 : Nat))
  | "first" => some (bool (index = 0))
  | "last" => some (bool (index + 1 = length))
  | "length" => some (int length)
  | "depth" => some (int 1)
  | "depth0" => some (int 0)
  | _ => Option.none

/-- The part behind a dot. -/
def memberOf (shown : Bool) (v : Value) (name : String) : Except Misuse Value :=
  if v.isAbsent then .error v.missed
  else
    let found := match v with
      | dict es => findText? name es
      | loop index length => loopMember? index length name
      | _ => Option.none
    .ok (found.getD (lacking shown v (text name)))

/-- The index of an item counted from the front, or from the back if it is negative. -/
def position? (length : Nat) (i : Int) : Option Nat :=
  let j := if i < 0 then i + length else i
  if 0 ≤ j ∧ j < length then some j.toNat else Option.none

/-- The item under a key, if there is one. -/
def item? (v key : Value) : Option Value :=
  match v with
  | dict es => if key.unkeyable?.isSome then Option.none else find? key es
  | loop index length =>
    match key with
    | text name => loopMember? index length name
    | _ => Option.none
  | _ =>
    match v.members?, key.int? with
    | some items, some i => (position? items.length i).bind (items[·]?)
    | _, _ => Option.none

/-- The part between square brackets. -/
def itemOf (shown : Bool) (v key : Value) : Except Misuse Value :=
  if v.isAbsent then .error v.missed
  else
    let found := match v, v.item? key with
      | markup _, some (text s) => some (markup s)
      | _, found => found
    .ok (found.getD (lacking shown v key))

/-! ## Slices -/

/-- A bound of a slice as an integer, if one is given. -/
def sliceBound : Option Value → Except Misuse (Option Int)
  | Option.none | some none => .ok Option.none
  | some v =>
    match v.int? with
    | some n => .ok (some n)
    | Option.none => .error .sliceIndex

/-- A bound brought into the range of the items. -/
def clampBound (length : Nat) (low high : Int) (n : Int) : Int :=
  let n := if n < 0 then n + length else n
  max low (min high n)

/-- The items of a slice. -/
def sliceItems {α : Type} (items : List α) (start stop : Option Int) (step : Int) : List α :=
  let length := items.length
  let (low, high) : Int × Int := if step > 0 then (0, length) else (-1, (length : Int) - 1)
  let first := (start.map (clampBound length low high)).getD (if step > 0 then low else high)
  let last := (stop.map (clampBound length low high)).getD (if step > 0 then high else low)
  (rangeItems first last step).filterMap fun v => v.int?.bind fun i => items[i.toNat]?

/-- A slice of a text, list, tuple or range. -/
def sliceOf (v : Value) (start stop step : Option Value) : Except Misuse Value :=
  let parts := do
    let start ← sliceBound start
    let stop ← sliceBound stop
    let step ← sliceBound step
    if step = some 0 then throw Misuse.zeroSliceStep
    return (start, stop, step.getD 1)
  match v with
  | text s => do
    let (a, b, c) ← parts
    return text (.ofList (sliceItems s.toList a b c))
  | markup s => do
    let (a, b, c) ← parts
    return markup (.ofList (sliceItems s.toList a b c))
  | list xs => do
    let (a, b, c) ← parts
    return list (sliceItems xs a b c)
  | tuple xs => do
    let (a, b, c) ← parts
    return tuple (sliceItems xs a b c)
  | range x y z => do
    let (a, b, c) ← parts
    return list (sliceItems (rangeItems x y z) a b c)
  | dict _ => .error (.unhashable "slice")
  | v => if v.isAbsent then .error v.missed else .error (.notSubscriptable v.kind)

end Emission.Value
