import Emission.Template.Program

/-!
# Rendering

What a program prints, given the values it is rendered with. Names bound inside a loop are forgotten at
the end of each round; all other bindings last to the end of the block they stand in.
-/

namespace Emission.Template

/-- What a program is rendered with. -/
structure Scene where
  surroundings : Surroundings
  /-- The values given for this rendering. -/
  values : List (String × Value)
  /-- The name of the template, unless it is rendered from a text. -/
  template : Option String := none

/-- The names bound so far, the latest first, and the text captured by the surrounding block. -/
structure Frame where
  names : List (String × Value) := []
  captured : String := ""

/-- The value of a name: bound in the template, given for the rendering, or known to every template. -/
def Scene.resolve (sc : Scene) (f : Frame) (n : String) : Value :=
  match f.names.lookup n with
  | some v => v
  | none =>
    match sc.values.lookup n with
    | some v => v
    | none =>
      (sc.surroundings.globals.lookup n).getD (.unbound sc.surroundings.showAbsent n)

/-- What a choice without a second part amounts to if its test fails. -/
def Scene.noChoice (sc : Scene) (line : Nat) : Value :=
  .unfounded false <|
    "the inline if-expression on line " ++ toString line ++
      (match sc.template with
        | some t => " in " ++ Text.quoted t
        | none => "") ++
      " evaluated to false and no else section was defined."

/-- Positional arguments from a value. -/
def spreadArguments : Option Value → Except Misuse (List Value)
  | none => .ok []
  | some v => v.members

/-- Named arguments from a dictionary. -/
def spreadNamedArguments : Option Value → Except Misuse (List (String × Value))
  | none => .ok []
  | some (.dict es) =>
    es.mapM fun (k, v) =>
      match k with
      | .text n => .ok (n, v)
      | _ => .error (.wrongArguments "keywords must be strings")
  | some v => .error (.wrongArguments ("argument after ** must be a mapping, not " ++ v.kind))

/-- Positional and named arguments with what is spread out among them. -/
def joinArguments (args : List Value) (named : List (String × Value))
    (spread spreadNamed : Option Value) :
    Except Misuse (List Value × List (String × Value)) := do
  return (args ++ (← spreadArguments spread), named ++ (← spreadNamedArguments spreadNamed))

/-- Applies the filter of this name. -/
def filterValue (s : Surroundings) (name : String) (v : Value)
    (arguments : List Value × List (String × Value)) : Except Fault Value :=
  match Filter.ofName? name with
  | some g => (g.apply s v arguments.1 arguments.2).mapError .misuse
  | none => .error (.missingFilter name)

/-- Applies the test of this name. -/
def testValue (name : String) (v : Value) (arguments : List Value × List (String × Value)) :
    Except Fault Value :=
  match Test.ofName? name with
  | some t => (t.apply v arguments.1 arguments.2).mapError .misuse
  | none => .error (.missingTest name)

/-! ## Expressions -/

mutual

/-- The value of an expression. -/
def Expr.eval (sc : Scene) (f : Frame) : Expr → Except Fault Value
  | .const v => .ok v
  | .name n => .ok (sc.resolve f n)
  | .captured => .ok (.text f.captured)
  | .tuple items => do return .tuple (← evalAll sc f items)
  | .list items => do return .list (← evalAll sc f items)
  | .dict entries => do
    let es ← evalEntries sc f entries
    for e in es do (Value.checkKey e.1 : Except Misuse Unit)
    return Value.dictOf es
  | .negate e => do (Value.signed true (← e.eval sc f) : Except Misuse Value)
  | .plus e => do (Value.signed false (← e.eval sc f) : Except Misuse Value)
  | .not e => do return .bool !(← e.eval sc f).truthy
  | .binary op l r => do
    let v ← l.eval sc f
    let w ← r.eval sc f
    (Value.arithmetic op v w : Except Misuse Value)
  | .concat items => do
    let vs ← evalAll sc f items
    return .text (String.join (← (vs.mapM Value.shown : Except Misuse (List String))))
  | .compare first rest => do evalChain sc f (← first.eval sc f) rest
  | .and l r => do
    let v ← l.eval sc f
    if v.truthy then r.eval sc f else return v
  | .or l r => do
    let v ← l.eval sc f
    if v.truthy then return v else r.eval sc f
  | .choose test yes no line => do
    if (← test.eval sc f).truthy then yes.eval sc f
    else return (← evalOption sc f no).getD (sc.noChoice line)
  | .member whole name => do
    (Value.memberOf sc.surroundings.showAbsent (← whole.eval sc f) name : Except Misuse Value)
  | .item whole key => do
    let v ← whole.eval sc f
    let k ← key.eval sc f
    (Value.itemOf sc.surroundings.showAbsent v k : Except Misuse Value)
  | .slice whole a b c => do
    let v ← whole.eval sc f
    let a ← evalOption sc f a
    let b ← evalOption sc f b
    let c ← evalOption sc f c
    (Value.sliceOf v a b c : Except Misuse Value)
  | .call g args named spread spreadNamed => do
    let g ← g.eval sc f
    let arguments ← (joinArguments (← evalAll sc f args) (← evalNamed sc f named)
      (← evalOption sc f spread) (← evalOption sc f spreadNamed) : Except Misuse _)
    (callValue g arguments.1 arguments.2 : Except Misuse Value)
  | .filter e name args named spread spreadNamed => do
    let v ← e.eval sc f
    let arguments ← (joinArguments (← evalAll sc f args) (← evalNamed sc f named)
      (← evalOption sc f spread) (← evalOption sc f spreadNamed) : Except Misuse _)
    filterValue sc.surroundings name v arguments
  | .test e name args named spread spreadNamed => do
    let v ← e.eval sc f
    let arguments ← (joinArguments (← evalAll sc f args) (← evalNamed sc f named)
      (← evalOption sc f spread) (← evalOption sc f spreadNamed) : Except Misuse _)
    testValue name v arguments

def evalAll (sc : Scene) (f : Frame) : List Expr → Except Fault (List Value)
  | [] => .ok []
  | e :: rest => do return (← e.eval sc f) :: (← evalAll sc f rest)

def evalEntries (sc : Scene) (f : Frame) :
    List (Expr × Expr) → Except Fault (List (Value × Value))
  | [] => .ok []
  | (k, e) :: rest => do return (← k.eval sc f, ← e.eval sc f) :: (← evalEntries sc f rest)

def evalNamed (sc : Scene) (f : Frame) :
    List (String × Expr) → Except Fault (List (String × Value))
  | [] => .ok []
  | (n, e) :: rest => do return (n, ← e.eval sc f) :: (← evalNamed sc f rest)

/-- A chain of comparisons after the value `v`, up to the first that does not hold. -/
def evalChain (sc : Scene) (f : Frame) (v : Value) : List (Comparison × Expr) → Except Fault Value
  | [] => .ok (.bool true)
  | (op, e) :: rest => do
    let w ← e.eval sc f
    if ← (Value.compared op v w : Except Misuse Bool) then evalChain sc f w rest
    else return .bool false

def evalOption (sc : Scene) (f : Frame) : Option Expr → Except Fault (Option Value)
  | none => .ok none
  | some e => do return some (← e.eval sc f)

end

/-! ## Bindings -/

mutual

/-- The names after a value is bound to a binder; a tuple takes the members of the value. -/
def Binder.bind (names : List (String × Value)) (v : Value) :
    Binder → Except Fault (List (String × Value))
  | .name n => .ok ((n, v) :: names)
  | .tuple items =>
    match v.members? with
    | none => .error (.misuse (v.unwalkable (.notUnpackable v.kind)))
    | some vs =>
      if vs.length < items.length then
        .error (.misuse (.tooFewToUnpack items.length vs.length))
      else if items.length < vs.length then .error (.misuse (.tooManyToUnpack items.length))
      else bindAll names vs items
  | .member .. => .error .notNamespace

def bindAll (names : List (String × Value)) (vs : List Value) :
    List Binder → Except Fault (List (String × Value))
  | [] => .ok names
  | t :: rest =>
    match vs with
    | [] => .ok names
    | v :: vs => do bindAll (← t.bind names v) vs rest

end

mutual

/-- Binds a member of a namespace somewhere. -/
def Binder.hasMember : Binder → Bool
  | .name _ => false
  | .tuple items => anyHasMember items
  | .member .. => true

def anyHasMember : List Binder → Bool
  | [] => false
  | t :: rest => t.hasMember || anyHasMember rest

end

/-! ## Statements -/

/-- The items that a loop goes through, up to the first at which its test fails to be evaluated. -/
def keptItems (test : Value → Except Fault Bool) : List Value → List Value × Option Fault
  | [] => ([], none)
  | v :: rest =>
    match test v with
    | .error e => ([], some e)
    | .ok keep =>
      let (vs, e) := keptItems test rest
      (if keep then v :: vs else vs, e)

/-- The output of the rounds of a loop, one for each item. -/
def rounds (round : Nat → Value → Except Fault String) : Nat → List Value → String →
    Except Fault String
  | _, [], printed => .ok printed
  | i, v :: rest, printed => do
    let out ← round i v
    rounds round (i + 1) rest (printed ++ out)

mutual

/-- What a statement prints, and the frame after it. -/
def Statement.run (sc : Scene) (f : Frame) : Statement → Except Fault (String × Frame)
  | .text s => .ok (s, f)
  | .introduce => .ok ("", { f with names := ("self", .template sc.template) :: f.names })
  | .print e => do
    let v ← e.eval sc f
    return (← (v.shown : Except Misuse String), f)
  | .unbind ns =>
    .ok ("", { f with names := ns.map (fun n => (n, .unbound sc.surroundings.showAbsent n)) ++ f.names })
  | .assign t e => do
    if t.hasMember then throw Fault.notNamespace
    let v ← e.eval sc f
    return ("", { f with names := ← t.bind f.names v })
  | .capture t e body => do
    let (out, inside) ← runAll sc f body
    let v ← e.eval sc { inside with captured := out }
    return ("", { f with names := ← t.bind f.names v })
  | .choose branches otherwise => do
    match ← runBranches sc f branches with
    | some result => return result
    | none => runAll sc f otherwise
  | .loop t items test body otherwise => do
    let v ← items.eval sc f
    let vs ← (v.members : Except Misuse (List Value))
    let keep (item : Value) : Except Fault Bool := do
      match test with
      | none => return true
      | some e => return (← e.eval sc { f with names := ← t.bind f.names item }).truthy
    let (kept, pending) := keptItems keep vs
    let round (i : Nat) (item : Value) : Except Fault String := do
      let names ← t.bind f.names item
      let (out, _) ← runAll sc { f with names := ("loop", .loop i kept.length) :: names } body
      return out
    let printed ← rounds round 0 kept ""
    match pending with
    | some e => throw e
    | none =>
      if kept.isEmpty then
        let (out, _) ← runAll sc f otherwise
        return (out, f)
      else return (printed, f)

def runAll (sc : Scene) (f : Frame) : List Statement → Except Fault (String × Frame)
  | [] => .ok ("", f)
  | t :: rest => do
    let (out, f) ← t.run sc f
    let (more, f) ← runAll sc f rest
    return (out ++ more, f)

/-- Runs the first branch whose test holds, if there is one. -/
def runBranches (sc : Scene) (f : Frame) :
    List (Expr × List Statement) → Except Fault (Option (String × Frame))
  | [] => .ok none
  | (test, body) :: rest => do
    if (← test.eval sc f).truthy then return some (← runAll sc f body)
    else runBranches sc f rest

end

/-- What a program prints. -/
def Program.render (p : Program) (sc : Scene) : Except Fault String :=
  (runAll sc {} p.body).map (·.1)

end Emission.Template
