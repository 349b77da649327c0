import Emission.Value.Arithmetic
import Emission.Value.Compare

/-!
# Template trees

What a template says: expressions, and the statements that print, bind, choose and repeat.
-/

namespace Emission.Template

inductive Expr
  | const (v : Value)
  | name (s : String)
  /-- The text that the surrounding block has captured. -/
  | captured
  | tuple (items : List Expr)
  | list (items : List Expr)
  | dict (entries : List (Expr × Expr))
  | negate (e : Expr)
  | plus (e : Expr)
  | not (e : Expr)
  | binary (op : BinaryOp) (l r : Expr)
  | concat (items : List Expr)
  | compare (first : Expr) (rest : List (Comparison × Expr))
  | and (l r : Expr)
  | or (l r : Expr)
  /-- One of two expressions; the line is that of the whole. -/
  | choose (test yes : Expr) (no : Option Expr) (line : Nat)
  | member (whole : Expr) (name : String)
  | item (whole key : Expr)
  | slice (whole : Expr) (start stop step : Option Expr)
  | call (function : Expr) (args : List Expr) (named : List (String × Expr))
      (spread spreadNamed : Option Expr)
  | filter (subject : Expr) (name : String) (args : List Expr) (named : List (String × Expr))
      (spread spreadNamed : Option Expr)
  | test (subject : Expr) (name : String) (args : List Expr) (named : List (String × Expr))
      (spread spreadNamed : Option Expr)
  deriving Inhabited, Repr

/-- How messages name the form of an expression. -/
def Expr.form : Expr → String
  | const _ => "const"
  | name _ => "name"
  | captured => "const"
  | tuple _ => "tuple"
  | list _ => "list"
  | dict _ => "dict"
  | negate _ => "neg"
  | plus _ => "pos"
  | not _ => "not"
  | binary .add .. => "add"
  | binary .sub .. => "sub"
  | binary .mul .. => "mul"
  | binary .div .. => "div"
  | binary .floorDiv .. => "floordiv"
  | binary .mod .. => "mod"
  | binary .pow .. => "pow"
  | concat _ => "concat"
  | compare .. => "compare"
  | and .. => "and"
  | or .. => "or"
  | choose .. => "condexpr"
  | member .. => "getattr"
  | item .. => "getitem"
  | slice .. => "getitem"
  | call .. => "call"
  | filter .. => "filter"
  | test .. => "test"

/-- What a value is bound to. -/
inductive Binder
  | name (s : String)
  | tuple (items : List Binder)
  /-- A member of a namespace. -/
  | member (space name : String)
  deriving Inhabited, Repr

mutual

/-- The binder that an expression stands for on the left of an assignment. -/
def Expr.binder? : Expr → Option Binder
  | .name s => some (Binder.name s)
  | .tuple items => (binders? items).map Binder.tuple
  | _ => none

def binders? : List Expr → Option (List Binder)
  | [] => some []
  | e :: rest =>
    match e.binder?, binders? rest with
    | some t, some ts => some (t :: ts)
    | _, _ => none

end

inductive Statement
  | text (s : String)
  /-- Binds `self` to what stands for the template. -/
  | introduce
  | print (e : Expr)
  | assign (binder : Binder) (e : Expr)
  /-- Makes names unbound. -/
  | unbind (names : List String)
  /-- Binds the text that a block prints, perhaps filtered. -/
  | capture (binder : Binder) (e : Expr) (body : List Statement)
  | choose (branches : List (Expr × List Statement)) (otherwise : List Statement)
  | loop (binder : Binder) (items : Expr) (test : Option Expr) (body otherwise : List Statement)
  deriving Inhabited, Repr

end Emission.Template
