import Emission.Template.Filter
import Emission.Template.Scope
import Emission.Template.Tree.Parse

/-!
# Programs

A template made ready to be rendered. Whatever an expression computes from constants alone is computed
here, once, with the renderers and settings of the moment; what fails is left for the rendering. The
filters and tests that are sure to be needed must exist.
-/

namespace Emission.Template

/-- A template that is ready to be rendered. -/
structure Program where
  body : List Statement
  deriving Inhabited, Repr

/-! ## Constants -/

/-- A failed computation gives no constant. -/
def attempt (r : Except Misuse (Option Value)) : Except Misuse (Option Value) :=
  match r with
  | .ok v => .ok v
  | .error _ => .ok none

/-- Where an absent value has been cut, the constant is absent; where the cut itself is wrong, there is
no constant. -/
def constantSlice (shown : Bool) (v : Value) (a b c : Option Value) : Option Value :=
  match Value.sliceOf v a b c with
  | .ok w => some w
  | .error .zeroSliceStep | .error (.absent _) | .error .longInteger => none
  | .error _ => some (.unfounded shown (v.wholeName ++ " has no element slice"))

mutual

/-- The value of an expression that is made of constants. A key that cannot be one is an error. -/
def Expr.constant? (s : Surroundings) : Expr → Except Misuse (Option Value)
  | .const v => .ok (some v)
  | .name _ | .captured | .call .. => .ok none
  | .tuple items => do return (← constants? s items).map .tuple
  | .list items => do return (← constants? s items).map .list
  | .dict entries => do return (← entryConstants? s entries).map Value.dictOf
  | .negate e => attempt do
    match ← e.constant? s with
    | none => return none
    | some v => some <$> v.signed true
  | .plus e => attempt do
    match ← e.constant? s with
    | none => return none
    | some v => some <$> v.signed false
  | .not e => attempt do return (← e.constant? s).map fun v => .bool !v.truthy
  | .binary op l r => attempt do
    match ← l.constant? s, ← r.constant? s with
    | some v, some w => some <$> v.arithmetic op w
    | _, _ => return none
  | .concat items => do return (← constantTexts? s items).map fun texts => .text (String.join texts)
  | .compare first rest => do
    match ← first.constant? s with
    | none => return none
    | some v => attempt (chainConstant? s v rest)
  | .and l r => do
    match ← l.constant? s with
    | none => return none
    | some v => if v.truthy then r.constant? s else return some v
  | .or l r => do
    match ← l.constant? s with
    | none => return none
    | some v => if v.truthy then return some v else r.constant? s
  | .choose test yes no _ => do
    match ← test.constant? s with
    | none => return none
    | some v => if v.truthy then yes.constant? s else optionConstant? s no
  | .member whole name => attempt do
    match ← whole.constant? s with
    | none => return none
    | some v => some <$> Value.memberOf s.showAbsent v name
  | .item whole key => attempt do
    match ← whole.constant? s, ← key.constant? s with
    | some v, some k => some <$> Value.itemOf s.showAbsent v k
    | _, _ => return none
  | .slice whole a b c => attempt do
    match ← whole.constant? s, ← partConstant? s a, ← partConstant? s b, ← partConstant? s c with
    | some v, some a, some b, some c => return constantSlice s.showAbsent v a b c
    | _, _, _, _ => return none
  | .filter e name args named spread spreadNamed => do
    match Filter.ofName? name, spread, spreadNamed with
    | some f, none, none =>
      match ← constants? s args, ← namedConstants? s named, ← e.constant? s with
      | some vs, some ns, some v => attempt (some <$> f.apply s v vs ns)
      | _, _, _ => return none
    | _, _, _ => return none
  | .test e name args named spread spreadNamed => do
    match Test.ofName? name, spread, spreadNamed with
    | some t, none, none =>
      match ← constants? s args, ← namedConstants? s named, ← e.constant? s with
      | some vs, some ns, some v => attempt (some <$> t.apply v vs ns)
      | _, _, _ => return none
    | _, _, _ => return none

def constants? (s : Surroundings) : List Expr → Except Misuse (Option (List Value))
  | [] => .ok (some [])
  | e :: rest => do
    match ← e.constant? s with
    | none => return none
    | some v => return (← constants? s rest).map (v :: ·)

/-- The texts of constants. One that cannot be written out is an error, even before one that is no constant. -/
def constantTexts? (s : Surroundings) : List Expr → Except Misuse (Option (List String))
  | [] => .ok (some [])
  | e :: rest => do
    match ← e.constant? s with
    | none => return none
    | some v =>
      let text ← v.shown
      return (← constantTexts? s rest).map (text :: ·)

/-- The entries of a dictionary of constants. A key that cannot be one is an error, even before an entry that is not
constant. -/
def entryConstants? (s : Surroundings) :
    List (Expr × Expr) → Except Misuse (Option (List (Value × Value)))
  | [] => .ok (some [])
  | (k, e) :: rest => do
    match ← k.constant? s, ← e.constant? s with
    | some k, some v =>
      Value.checkKey k
      return (← entryConstants? s rest).map ((k, v) :: ·)
    | _, _ => return none

def namedConstants? (s : Surroundings) :
    List (String × Expr) → Except Misuse (Option (List (String × Value)))
  | [] => .ok (some [])
  | (n, e) :: rest => do
    match ← e.constant? s with
    | none => return none
    | some v => return (← namedConstants? s rest).map ((n, v) :: ·)

/-- A chain of comparisons after the constant `v`; what follows a comparison that does not hold is not
looked at. -/
def chainConstant? (s : Surroundings) (v : Value) :
    List (Comparison × Expr) → Except Misuse (Option Value)
  | [] => .ok (some (.bool true))
  | (op, e) :: rest => do
    match ← e.constant? s with
    | none => return none
    | some w => if ← Value.compared op v w then chainConstant? s w rest else return some (.bool false)

/-- The constant of an expression that need not be there. -/
def optionConstant? (s : Surroundings) : Option Expr → Except Misuse (Option Value)
  | none => .ok none
  | some e => e.constant? s

/-- The constant of a part of a slice; a part that is not written is constant too. -/
def partConstant? (s : Surroundings) : Option Expr → Except Misuse (Option (Option Value))
  | none => .ok (some none)
  | some e => do return (← e.constant? s).map some

end

/-! ## Folding -/

mutual

/-- A value that can take the place of the expression it was computed from. -/
def isLasting : Value → Bool
  | .list xs | .tuple xs => areLasting xs
  | .dict es => entriesLasting es
  | .rangeBuilder | .loop .. | .template _ | .unbound .. | .lacking .. | .unfounded .. => false
  | _ => true

def areLasting : List Value → Bool
  | [] => true
  | v :: rest => isLasting v && areLasting rest

def entriesLasting : List (Value × Value) → Bool
  | [] => true
  | (k, v) :: rest => isLasting k && isLasting v && entriesLasting rest

end

/-- An expression, or the lasting constant it amounts to. -/
def settle (s : Surroundings) (e : Expr) : Except Misuse Expr := do
  match ← e.constant? s with
  | some v => return if isLasting v then .const v else e
  | none => return e

mutual

/-- An expression with every constant part computed. -/
def Expr.fold (s : Surroundings) : Expr → Except Misuse Expr
  | .const v => .ok (.const v)
  | .name n => .ok (.name n)
  | .captured => .ok .captured
  | .tuple items => do settle s (.tuple (← foldAll s items))
  | .list items => do settle s (.list (← foldAll s items))
  | .dict entries => do settle s (.dict (← foldEntries s entries))
  | .negate e => do settle s (.negate (← e.fold s))
  | .plus e => do settle s (.plus (← e.fold s))
  | .not e => do settle s (.not (← e.fold s))
  | .binary op l r => do settle s (.binary op (← l.fold s) (← r.fold s))
  | .concat items => do settle s (.concat (← foldAll s items))
  | .compare first rest => do settle s (.compare (← first.fold s) (← foldChain s rest))
  | .and l r => do settle s (.and (← l.fold s) (← r.fold s))
  | .or l r => do settle s (.or (← l.fold s) (← r.fold s))
  | .choose test yes no line => do
    settle s (.choose (← test.fold s) (← yes.fold s) (← foldOption s no) line)
  | .member whole name => do settle s (.member (← whole.fold s) name)
  | .item whole key => do settle s (.item (← whole.fold s) (← key.fold s))
  | .slice whole a b c => do
    settle s (.slice (← whole.fold s) (← foldOption s a) (← foldOption s b) (← foldOption s c))
  | .call f args named spread spreadNamed => do
    return .call (← f.fold s) (← foldAll s args) (← foldNamed s named) (← foldOption s spread)
      (← foldOption s spreadNamed)
  | .filter e name args named spread spreadNamed => do
    settle s (.filter (← e.fold s) name (← foldAll s args) (← foldNamed s named)
      (← foldOption s spread) (← foldOption s spreadNamed))
  | .test e name args named spread spreadNamed => do
    settle s (.test (← e.fold s) name (← foldAll s args) (← foldNamed s named)
      (← foldOption s spread) (← foldOption s spreadNamed))

def foldAll (s : Surroundings) : List Expr → Except Misuse (List Expr)
  | [] => .ok []
  | e :: rest => do return (← e.fold s) :: (← foldAll s rest)

def foldEntries (s : Surroundings) : List (Expr × Expr) → Except Misuse (List (Expr × Expr))
  | [] => .ok []
  | (k, e) :: rest => do return (← k.fold s, ← e.fold s) :: (← foldEntries s rest)

def foldChain (s : Surroundings) :
    List (Comparison × Expr) → Except Misuse (List (Comparison × Expr))
  | [] => .ok []
  | (op, e) :: rest => do return (op, ← e.fold s) :: (← foldChain s rest)

def foldNamed (s : Surroundings) : List (String × Expr) → Except Misuse (List (String × Expr))
  | [] => .ok []
  | (n, e) :: rest => do return (n, ← e.fold s) :: (← foldNamed s rest)

def foldOption (s : Surroundings) : Option Expr → Except Misuse (Option Expr)
  | none => .ok none
  | some e => do return some (← e.fold s)

end

/-! ## Names that must exist -/

mutual

/-- Fails at the first filter or test that does not exist. Inside a choice (`soft`) a missing one is left
for the rendering, which may never come to it. -/
def Expr.check (soft : Bool) : Expr → Except Fault Unit
  | .const _ | .name _ | .captured => .ok ()
  | .tuple items | .list items | .concat items => checkAll soft items
  | .dict entries => checkEntries soft entries
  | .negate e | .plus e | .not e | .member e _ => e.check soft
  | .binary _ l r | .and l r | .or l r | .item l r => do
    l.check soft
    r.check soft
  | .compare first rest => do
    first.check soft
    checkChain soft rest
  | .choose test yes no _ => do
    yes.check true
    test.check true
    checkOption true no
  | .slice whole a b c => do
    whole.check soft
    checkOption soft a
    checkOption soft b
    checkOption soft c
  | .call f args named spread spreadNamed => do
    f.check soft
    checkAll soft args
    checkNamed soft named
    checkOption soft spread
    checkOption soft spreadNamed
  | .filter e name args named spread spreadNamed => do
    if !soft && (Filter.ofName? name).isNone then throw (Fault.unknownFilter name)
    e.check soft
    checkAll soft args
    checkNamed soft named
    checkOption soft spread
    checkOption soft spreadNamed
  | .test e name args named spread spreadNamed => do
    if !soft && (Test.ofName? name).isNone then throw (Fault.unknownTest name)
    e.check soft
    checkAll soft args
    checkNamed soft named
    checkOption soft spread
    checkOption soft spreadNamed

def checkAll (soft : Bool) : List Expr → Except Fault Unit
  | [] => .ok ()
  | e :: rest => do
    e.check soft
    checkAll soft rest

def checkEntries (soft : Bool) : List (Expr × Expr) → Except Fault Unit
  | [] => .ok ()
  | (k, e) :: rest => do
    k.check soft
    e.check soft
    checkEntries soft rest

def checkChain (soft : Bool) : List (Comparison × Expr) → Except Fault Unit
  | [] => .ok ()
  | (_, e) :: rest => do
    e.check soft
    checkChain soft rest

def checkNamed (soft : Bool) : List (String × Expr) → Except Fault Unit
  | [] => .ok ()
  | (_, e) :: rest => do
    e.check soft
    checkNamed soft rest

def checkOption (soft : Bool) : Option Expr → Except Fault Unit
  | none => .ok ()
  | some e => e.check soft

end

mutual

/-- Binds the name `loop`. -/
def Binder.bindsLoop : Binder → Bool
  | .name s => s = "loop"
  | .tuple items => anyBindsLoop items
  | .member .. => false

def anyBindsLoop : List Binder → Bool
  | [] => false
  | t :: rest => t.bindsLoop || anyBindsLoop rest

end

mutual

/-- Binds the name `loop` somewhere. -/
def Statement.bindsLoop : Statement → Bool
  | .text _ | .introduce | .print _ | .unbind _ => false
  | .assign t _ => t.bindsLoop
  | .capture t _ body => t.bindsLoop || statementsBindLoop body
  | .choose branches otherwise => branchesBindLoop branches || statementsBindLoop otherwise
  | .loop t _ _ body otherwise =>
    t.bindsLoop || statementsBindLoop body || statementsBindLoop otherwise

def statementsBindLoop : List Statement → Bool
  | [] => false
  | s :: rest => s.bindsLoop || statementsBindLoop rest

def branchesBindLoop : List (Expr × List Statement) → Bool
  | [] => false
  | (_, body) :: rest => statementsBindLoop body || branchesBindLoop rest

end

/-! ## Preparing a template -/

/-- An expression made ready. -/
def prepareExpr (s : Surroundings) (soft : Bool) (e : Expr) : Except Fault Expr := do
  let e ← (e.fold s : Except Misuse Expr)
  e.check soft
  return e

/-- A printed expression made ready; what it prints may be known already. -/
def preparePrint (s : Surroundings) (soft : Bool) (e : Expr) : Except Fault Statement := do
  match ← (e.constant? s : Except Misuse (Option Value)) with
  | some v => return .text (← (v.shown : Except Misuse String))
  | none => return .print (← prepareExpr s soft e)

mutual

def Statement.prepare (s : Surroundings) (soft : Bool) : Statement → Except Fault Statement
  | .text t => .ok (.text t)
  | .introduce => .ok .introduce
  | .unbind ns => .ok (.unbind ns)
  | .print e => preparePrint s soft e
  | .assign t e => do return .assign t (← prepareExpr s soft e)
  | .capture t e body => do
    let body ← prepareAll s false body
    return .capture t (← prepareExpr s false e) body
  | .choose branches otherwise => do
    return .choose (← prepareBranches s branches) (← prepareAll s true otherwise)
  | .loop t items test body otherwise => do
    let test ← test.mapM (prepareExpr s false)
    if t.bindsLoop || statementsBindLoop body || statementsBindLoop otherwise then
      throw Fault.loopAssigned
    let items ← prepareExpr s soft items
    let body ← prepareAll s false body
    return .loop t items test body (← prepareAll s false otherwise)

def prepareAll (s : Surroundings) (soft : Bool) : List Statement → Except Fault (List Statement)
  | [] => .ok []
  | t :: rest => do return (← t.prepare s soft) :: (← prepareAll s soft rest)

def prepareBranches (s : Surroundings) :
    List (Expr × List Statement) → Except Fault (List (Expr × List Statement))
  | [] => .ok []
  | (e, body) :: rest => do
    let e ← prepareExpr s true e
    let body ← prepareAll s true body
    return (e, body) :: (← prepareBranches s rest)

end

/-- The program of a template. -/
def compile (s : Surroundings) (l : Layout) (source : String) : Except Fault Program := do
  let tree ← (parse l source).mapError Fault.malformed
  return ⟨← prepareAll s false (markScopes tree)⟩

end Emission.Template
