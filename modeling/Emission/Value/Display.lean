import Emission.Number.FloatText
import Emission.Text.Printable
import Emission.Value.Basic

/-!
# The text of a value

Two forms: a text shows as itself when it stands alone and between quotes inside another value;
everything else has one form. An absent value shows as nothing or as a placeholder.
-/

namespace Emission.Value

/-- How many digits an integer may have that is written out. -/
def digitLimit : Nat := 4300

/-- The integer is not too long to be written out. -/
def IsLegible (n : Int) : Prop := n.natAbs < Nat.pow 10 digitLimit

instance (n : Int) : Decidable (IsLegible n) := inferInstanceAs (Decidable (n.natAbs < Nat.pow 10 digitLimit))

mutual

/-- None of the integers that are shown with the value is too long to be written out. -/
def isLegible : Value → Bool
  | int n => IsLegible n
  | list xs | tuple xs => areLegible xs
  | dict es => entriesLegible es
  | range start stop step => decide (IsLegible start) && decide (IsLegible stop) && decide (IsLegible step)
  | _ => true

def areLegible : List Value → Bool
  | [] => true
  | v :: rest => isLegible v && areLegible rest

def entriesLegible : List (Value × Value) → Bool
  | [] => true
  | (k, v) :: rest => isLegible k && isLegible v && entriesLegible rest

end

/-- Items between commas. -/
def commaSeparated (items : List String) : String := ", ".intercalate items

mutual

/-- The form of a value inside another one. -/
def inner : Value → String
  | none => "None"
  | bool b => if b then "True" else "False"
  | int n => toString n
  | float x => Number.floatText x
  | text s => Text.quoted s
  | markup s => "Markup(" ++ Text.quoted s ++ ")"
  | list xs => "[" ++ commaSeparated (innerItems xs) ++ "]"
  | tuple [x] => "(" ++ inner x ++ ",)"
  | tuple xs => "(" ++ commaSeparated (innerItems xs) ++ ")"
  | dict es => "\x7b" ++ commaSeparated (innerEntries es) ++ "\x7d"
  | range start stop step =>
    "range(" ++ toString start ++ ", " ++ toString stop ++
      (if step = 1 then "" else ", " ++ toString step) ++ ")"
  | rangeBuilder => "<class 'range'>"
  | loop index length => "<LoopContext " ++ toString (index + 1) ++ "/" ++ toString length ++ ">"
  | template name => "<TemplateReference " ++ (name.map Text.quoted).getD "None" ++ ">"
  | unbound .. | lacking .. | unfounded .. => "Undefined"

def innerItems : List Value → List String
  | [] => []
  | v :: rest => inner v :: innerItems rest

def innerEntries : List (Value × Value) → List String
  | [] => []
  | (k, v) :: rest => (inner k ++ ": " ++ inner v) :: innerEntries rest

end

/-- How messages name a value whose part is missing. -/
def wholeName : Value → String
  | none => "None"
  | v@(markup _) => "markupsafe." ++ v.kind ++ " object"
  | v@(loop ..) | v@(template _) => "jinja2.runtime." ++ v.kind ++ " object"
  | v => v.kind ++ " object"

/-- The text of a value that stands alone. -/
def display : Value → String
  | text s | markup s => s
  | unbound shown name => placeholder shown name
  | lacking shown whole key =>
    placeholder shown ("no such element: " ++ whole.wholeName ++ "[" ++ key.inner ++ "]")
  | unfounded shown reason => placeholder shown ("undefined value printed: " ++ reason)
  | v => v.inner
where
  placeholder (shown : Bool) (note : String) : String :=
    if shown then "\x7b\x7b " ++ note ++ " \x7d\x7d" else ""

@[simp] theorem display_text (s : String) : (text s).display = s := rfl

@[simp] theorem display_int (n : Int) : (int n).display = toString n := rfl

end Emission.Value
