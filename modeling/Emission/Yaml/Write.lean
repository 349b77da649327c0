import Emission.Number.FloatText
import Emission.Value.Display
import Emission.Yaml.Plain
import Emission.Yaml.Tag

/-!
# Writing YAML

A value in block style: each entry and item on a line of its own, two blanks for each level, a text
without quotes where that is possible.
-/

namespace Emission.Yaml

/-! ## Scalars -/

/-- How a text is written. -/
inductive ScalarStyle
  | plain | single | double
  deriving DecidableEq, Repr

/-- A text is plain if it can be and would not be read as something else; otherwise it stands between
single quotes if they can hold it. -/
def styleOf (s : List Char) : ScalarStyle :=
  if Tag.ofPlain s = .text ∧ isPlainText s then .plain
  else if isSingleText s then .single
  else .double

/-- A text, written at a column; its further lines are indented. -/
def textForm (fold : Bool) (indent column : Nat) (s : List Char) : List Char :=
  match styleOf s with
  | .plain => plainForm fold indent column s
  | .single => singleForm fold indent column s
  | .double => doubleForm fold indent column s

/-- How numbers are written: NaN and the infinities behind a point. -/
def floatLayout : Number.Layout := { Number.plainTo16 with nan := ".nan", infinity := ".inf" }

/-- The text of a double; one with an exponent has a point as well. -/
def floatForm (x : Float) : List Char :=
  let cs := (floatLayout.float x).toList
  if cs.contains '.' then cs
  else cs.flatMap fun c => if c = 'e' then ['.', '0', 'e'] else [c]

/-- A value that is neither list nor dictionary. -/
def scalarForm (fold : Bool) (indent column : Nat) : Value → List Char
  | .none => "null".toList
  | .bool b => (if b then "true" else "false").toList
  | .int n => (toString n).toList
  | .float x => floatForm x
  | v => textForm fold indent column v.display.toList

/-! ## Collections -/

/-- A key that stands before its colon: a short text in one line, or a value that is no text. -/
def isSimpleKey (v : Value) : Bool :=
  match v.text? with
  | some s => s.length + 5 < 128 && s ≠ "" && !s.toList.any fun c => isBreak c && c != '\r'
  | none => true

/-- Pieces on a line each. -/
def onLines (indent : Nat) (pieces : List (List Char)) : List Char :=
  (newLine indent).intercalate pieces

mutual

/-- A value that starts at a column inside a block indented by that column. -/
def blockForm (indent : Nat) : Value → List Char
  | .list vs | .tuple vs => if vs.isEmpty then ['[', ']'] else onLines indent (itemForms indent vs)
  | .dict es =>
    if es.isEmpty then ['\x7b', '\x7d'] else onLines indent (entryForms indent es)
  | v => scalarForm true (indent + 2) indent v

/-- Items, each behind a dash. -/
def itemForms (indent : Nat) : List Value → List (List Char)
  | [] => []
  | v :: rest => ('-' :: ' ' :: blockForm (indent + 2) v) :: itemForms indent rest

/-- Keys with their values; a key that is not simple stands behind a mark of its own. -/
def entryForms (indent : Nat) : List (Value × Value) → List (List Char)
  | [] => []
  | (k, v) :: rest =>
    let key := scalarForm false indent indent k
    (if isSimpleKey k then key ++ ':' :: afterKey indent (indent + key.length + 1) v
      else
        '?' :: ' ' :: scalarForm true (indent + 2) (indent + 2) k ++ newLine indent ++
          ':' :: ' ' :: blockForm (indent + 2) v) ::
      entryForms indent rest

/-- A value behind the colon of its key, which ends at a column. -/
def afterKey (indent column : Nat) : Value → List Char
  | .list vs | .tuple vs =>
    if vs.isEmpty then [' ', '[', ']'] else newLine indent ++ onLines indent (itemForms indent vs)
  | .dict es =>
    if es.isEmpty then [' ', '\x7b', '\x7d']
    else newLine (indent + 2) ++ onLines (indent + 2) (entryForms (indent + 2) es)
  | v => ' ' :: scalarForm true (indent + 2) (column + 1) v

end

/-- A list or dictionary as a text. -/
def write (v : Value) : String := .ofList (blockForm 0 v ++ ['\n'])

end Emission.Yaml
