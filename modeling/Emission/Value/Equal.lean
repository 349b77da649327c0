import Emission.Number.Binary
import Emission.Value.Basic

/-!
# Equality of values

When two values are the same: numbers by their size whatever their kind, truth values counting as zero
and one, texts by their characters, dictionaries whatever their order.
-/

namespace Emission.Value

open Number (FloatForm)

/-- Order of two numbers, if both are numbers and neither is a NaN. -/
def compareNumbers? (v w : Value) : Option Ordering :=
  match v, w with
  | .float x, .float y =>
    if x < y then some .lt else if x == y then some .eq else if y < x then some .gt else Option.none
  | .float x, w =>
    match w.int? with
    | some n => compareToInt? x n
    | Option.none => Option.none
  | v, .float y =>
    match v.int? with
    | some n => (compareToInt? y n).map Ordering.swap
    | Option.none => Option.none
  | v, w =>
    match v.int?, w.int? with
    | some m, some n => some (compare m n)
    | _, _ => Option.none
where
  /-- A double against an integer, exactly. -/
  compareToInt? (x : Float) (n : Int) : Option Ordering :=
    match FloatForm.of x with
    | .nan => Option.none
    | .infinite negative => some (if negative then .lt else .gt)
    | .finite p => some (Number.compareToInt p n)

mutual

/-- The same value. -/
def same : Value → Value → Bool
  | none, w => w.isNone
  | bool b, w => compareNumbers? (bool b) w == some .eq
  | int n, w => compareNumbers? (int n) w == some .eq
  | float x, w => compareNumbers? (float x) w == some .eq
  | text s, w => w.text? == some s
  | markup s, w => w.text? == some s
  | list xs, list ys => sameItems xs ys
  | tuple xs, tuple ys => sameItems xs ys
  | dict es, dict fs => es.length == fs.length && entriesIn es fs
  | range a b c, range d e f =>
    rangeLength a b c == rangeLength d e f &&
      (rangeLength a b c == 0 || a == d && (rangeLength a b c == 1 || c == f))
  | rangeBuilder, rangeBuilder => true
  | loop i n, loop j m => i == j && n == m
  | template n, template m => n == m
  | unbound shown _, w => w.isAbsent && w.kind == (unbound shown "").kind
  | lacking shown _ _, w => w.isAbsent && w.kind == (unbound shown "").kind
  | unfounded shown _, w => w.isAbsent && w.kind == (unbound shown "").kind
  | _, _ => false

/-- The same items, pair by pair. -/
def sameItems : List Value → List Value → Bool
  | [], [] => true
  | v :: vs, w :: ws => same v w && sameItems vs ws
  | _, _ => false

/-- Each entry is found in the other dictionary. -/
def entriesIn : List (Value × Value) → List (Value × Value) → Bool
  | [], _ => true
  | (k, v) :: rest, fs => fs.any (fun f => same k f.1 && same v f.2) && entriesIn rest fs

end

/-! ## Dictionaries -/

/-- The value under a key. -/
def find? (key : Value) : List (Value × Value) → Option Value
  | [] => Option.none
  | (k, v) :: rest => if same k key then some v else find? key rest

/-- Sets a key; a key that is there keeps its place and its spelling. -/
def put (key value : Value) : List (Value × Value) → List (Value × Value)
  | [] => [(key, value)]
  | (k, v) :: rest => if same k key then (k, value) :: rest else (k, v) :: put key value rest

/-- The dictionary that a list of pairs spells, a later pair replacing the value of an earlier one. -/
def dictOf (pairs : List (Value × Value)) : Value :=
  dict (pairs.foldl (fun es p => put p.1 p.2 es) [])

/-- The value under a text key. -/
def findText? (key : String) (entries : List (Value × Value)) : Option Value :=
  find? (text key) entries

end Emission.Value
