import Emission.Template.Token.Scan
import Emission.Template.Tree

/-!
# Reading trees

`parse` makes the tree of a template from its tokens. Tokens are looked at one by one; a place where
reading tokens failed is an error as soon as it comes up.
-/

namespace Emission.Template

/-- A reader of tokens. -/
abbrev Reader := StateT (List Located) (Except ParseFault)

namespace Reader

/-- The token that comes next. -/
def next? : Reader (Option Token) := fun ts => .ok (ts.head?.map (·.token), ts)

/-- The token after that; it is an error if reading it failed. -/
def afterNext? : Reader (Option Token) := fun ts =>
  match ts.tail.head? with
  | some ⟨.broken fault, _⟩ => .error fault
  | t => .ok (t.map (·.token), ts)

/-- The line of the next token. -/
def line : Reader Nat := fun ts => .ok ((ts.head?.map (·.line)).getD 0, ts)

/-- Passes over a token. -/
def skip : Reader Unit := fun ts =>
  match ts.tail with
  | ⟨.broken fault, _⟩ :: _ => .error fault
  | rest => .ok ((), rest)

def fail {α : Type} (fault : ParseFault) : Reader α := fun _ => .error fault

/-- How the next token is described. -/
def describeNext : Reader String := do
  return ((← next?).map Token.describe).getD "end of template"

/-- Fails because something else was wanted next. -/
def failWanting {α : Type} (wanted : String) : Reader α := do
  match ← next? with
  | none => fail (.endsBefore wanted)
  | some t => fail (.expected wanted t.describe)

def nextIsMark (m : Mark) : Reader Bool := do
  match ← next? with
  | some (.mark n) => return n = m
  | _ => return false

def nextIsName (word : String) : Reader Bool := do
  match ← next? with
  | some (.name s) => return s = word
  | _ => return false

/-- Passes over a mark if it comes next. -/
def skipMark (m : Mark) : Reader Bool := do
  if ← nextIsMark m then
    skip
    return true
  return false

/-- Passes over a word if it comes next. -/
def skipName (word : String) : Reader Bool := do
  if ← nextIsName word then
    skip
    return true
  return false

def expectMark (m : Mark) : Reader Unit := do
  if ← nextIsMark m then skip else failWanting m.text

def expectWord (word : String) : Reader Unit := do
  if ← nextIsName word then skip else failWanting word

/-- Passes over a name and gives it. -/
def expectName : Reader String := do
  match ← next? with
  | some (.name s) =>
    skip
    return s
  | _ => failWanting "name"

def expectBlockEnd : Reader Unit := do
  match ← next? with
  | some .blockEnd => skip
  | _ => failWanting Token.blockEnd.describe

def expectPrintEnd : Reader Unit := do
  match ← next? with
  | some .printEnd => skip
  | _ => failWanting Token.printEnd.describe

/-- The answer of a reader whose steps are used up, which `parseSteps` rules out. -/
def outOfSteps {α : Type} : Reader α := fail (.unexpected "end of template")

end Reader

open Reader

/-! ## Expressions -/

def Mark.comparison? : Mark → Option Comparison
  | .equal => some .equal
  | .unequal => some .unequal
  | .less => some .less
  | .lessOrEqual => some .lessOrEqual
  | .greater => some .greater
  | .greaterOrEqual => some .greaterOrEqual
  | _ => none

/-- The operators that bind like `+`. -/
def Mark.sum? : Mark → Option BinaryOp
  | .plus => some .add
  | .minus => some .sub
  | _ => none

/-- The operators that bind like `*`. -/
def Mark.product? : Mark → Option BinaryOp
  | .star => some .mul
  | .slash => some .div
  | .doubleSlash => some .floorDiv
  | .percent => some .mod
  | _ => none

/-- The operator of a mark that comes next. -/
def nextOperator? {α : Type} (table : Mark → Option α) : Reader (Option α) := do
  match ← next? with
  | some (.mark m) => return table m
  | _ => return none

/-- The constant that a word stands for. -/
def constant? (word : String) : Option Value :=
  if word = "true" ∨ word = "True" then some (.bool true)
  else if word = "false" ∨ word = "False" then some (.bool false)
  else if word = "none" ∨ word = "None" then some .none
  else none

/-- The comparison that starts here, passed over. -/
def comparison? : Reader (Option Comparison) := do
  match ← nextOperator? Mark.comparison? with
  | some op =>
    skip
    return some op
  | none =>
    if ← skipName "in" then return some .isIn
    if ← nextIsName "not" then
      match ← afterNext? with
      | some (.name "in") =>
        skip
        skip
        return some .isNotIn
      | _ => return none
    return none

/-- No item of a tuple can start here. A word never ends a tuple: the one behind a comma is its next
item. -/
def atTupleEnd : Reader Bool := do
  match ← next? with
  | some .printEnd | some .blockEnd | some (.mark .rparen) => return true
  | _ => return false

/-- Texts that follow one another, joined. -/
def adjacentTexts : Nat → Reader String
  | 0 => return ""
  | fuel + 1 => do
    match ← next? with
    | some (.text s) =>
      skip
      return s ++ (← adjacentTexts fuel)
    | _ => return ""

/-- The arguments of a call. -/
structure Arguments where
  args : List Expr := []
  named : List (String × Expr) := []
  spread : Option Expr := none
  spreadNamed : Option Expr := none

/-- A test may be followed by one argument without brackets; this tells whether one starts here. -/
def argumentFollows : Reader Bool := do
  match ← next? with
  | some (.name s) => return !(["else", "or", "and"].contains s)
  | some (.text _) | some (.int _) | some (.float _) => return true
  | some (.mark m) => return m = .lparen || m = .lbracket || m = .lbrace
  | _ => return false

/-- The name of a named argument that starts here. -/
def argumentName? : Reader (Option String) := do
  match ← next? with
  | some (.name s) =>
    match ← afterNext? with
    | some (.mark .assign) => return some s
    | _ => return none
  | _ => return none

/-- Part of what stands between square brackets: an expression or a slice. -/
inductive Subscript
  | key (e : Expr)
  | slice (start stop step : Option Expr)

mutual

/-- An expression; a choice between two only if `choices` allows it. -/
def expression (choices : Bool) : Nat → Reader Expr
  | 0 => outOfSteps
  | fuel + 1 => do
    if choices then
      let line ← line
      choiceAfter line (← disjunction fuel) fuel
    else disjunction fuel

/-- A choice whose first part is read. -/
def choiceAfter (line : Nat) (yes : Expr) : Nat → Reader Expr
  | 0 => return yes
  | fuel + 1 => do
    if ← skipName "if" then
      let test ← disjunction fuel
      let no ← if ← skipName "else" then some <$> expression true fuel else pure none
      let e := Expr.choose test yes no line
      choiceAfter (← Reader.line) e fuel
    else return yes

def disjunction : Nat → Reader Expr
  | 0 => outOfSteps
  | fuel + 1 => do disjunctionAfter (← conjunction fuel) fuel

def disjunctionAfter (left : Expr) : Nat → Reader Expr
  | 0 => return left
  | fuel + 1 => do
    if ← skipName "or" then disjunctionAfter (.or left (← conjunction fuel)) fuel
    else return left

def conjunction : Nat → Reader Expr
  | 0 => outOfSteps
  | fuel + 1 => do conjunctionAfter (← negation fuel) fuel

def conjunctionAfter (left : Expr) : Nat → Reader Expr
  | 0 => return left
  | fuel + 1 => do
    if ← skipName "and" then conjunctionAfter (.and left (← negation fuel)) fuel
    else return left

def negation : Nat → Reader Expr
  | 0 => outOfSteps
  | fuel + 1 => do
    if ← skipName "not" then return .not (← negation fuel)
    else comparisonChain fuel

def comparisonChain : Nat → Reader Expr
  | 0 => outOfSteps
  | fuel + 1 => do
    let first ← sum fuel
    match ← comparisons fuel with
    | [] => return first
    | rest => return .compare first rest

def comparisons : Nat → Reader (List (Comparison × Expr))
  | 0 => return []
  | fuel + 1 => do
    match ← comparison? with
    | none => return []
    | some op =>
      let e ← sum fuel
      return (op, e) :: (← comparisons fuel)

def sum : Nat → Reader Expr
  | 0 => outOfSteps
  | fuel + 1 => do sumAfter (← concatenation fuel) fuel

def sumAfter (left : Expr) : Nat → Reader Expr
  | 0 => return left
  | fuel + 1 => do
    match ← nextOperator? Mark.sum? with
    | none => return left
    | some op =>
      skip
      sumAfter (.binary op left (← concatenation fuel)) fuel

def concatenation : Nat → Reader Expr
  | 0 => outOfSteps
  | fuel + 1 => do
    let first ← product fuel
    match ← concatenated fuel with
    | [] => return first
    | rest => return .concat (first :: rest)

def concatenated : Nat → Reader (List Expr)
  | 0 => return []
  | fuel + 1 => do
    if ← skipMark .tilde then
      let e ← product fuel
      return e :: (← concatenated fuel)
    else return []

def product : Nat → Reader Expr
  | 0 => outOfSteps
  | fuel + 1 => do productAfter (← power fuel) fuel

def productAfter (left : Expr) : Nat → Reader Expr
  | 0 => return left
  | fuel + 1 => do
    match ← nextOperator? Mark.product? with
    | none => return left
    | some op =>
      skip
      productAfter (.binary op left (← power fuel)) fuel

def power : Nat → Reader Expr
  | 0 => outOfSteps
  | fuel + 1 => do powerAfter (← unary true fuel) fuel

def powerAfter (left : Expr) : Nat → Reader Expr
  | 0 => return left
  | fuel + 1 => do
    if ← skipMark .doubleStar then powerAfter (.binary .pow left (← unary true fuel)) fuel
    else return left

/-- A signed or plain operand, with filters and tests only if `filters` allows them. -/
def unary (filters : Bool) : Nat → Reader Expr
  | 0 => outOfSteps
  | fuel + 1 => do
    let e ←
      if ← skipMark .minus then .negate <$> unary false fuel
      else if ← skipMark .plus then .plus <$> unary false fuel
      else primary fuel
    let e ← postfixes e fuel
    if filters then filtersAfter e fuel else return e

def primary : Nat → Reader Expr
  | 0 => outOfSteps
  | fuel + 1 => do
    match ← next? with
    | some (.name s) =>
      skip
      return (constant? s).elim (.name s) .const
    | some (.text _) => return .const (.text (← adjacentTexts (fuel + 1)))
    | some (.int n) =>
      skip
      return .const (.int n)
    | some (.float x) =>
      skip
      return .const (.float x)
    | some (.mark .lparen) =>
      skip
      let e ← tupleOr true true fuel
      expectMark .rparen
      return e
    | some (.mark .lbracket) =>
      skip
      let items ← listItems true fuel
      expectMark .rbracket
      return .list items
    | some (.mark .lbrace) =>
      skip
      let entries ← dictEntries true fuel
      expectMark .rbrace
      return .dict entries
    | _ => fail (.unexpected (← describeNext))

/-- The items of a list up to its closing bracket. -/
def listItems (first : Bool) : Nat → Reader (List Expr)
  | 0 => return []
  | fuel + 1 => do
    if ← nextIsMark .rbracket then return []
    if !first then expectMark .comma
    if ← nextIsMark .rbracket then return []
    let e ← expression true fuel
    return e :: (← listItems false fuel)

/-- The entries of a dictionary up to its closing brace. -/
def dictEntries (first : Bool) : Nat → Reader (List (Expr × Expr))
  | 0 => return []
  | fuel + 1 => do
    if ← nextIsMark .rbrace then return []
    if !first then expectMark .comma
    if ← nextIsMark .rbrace then return []
    let k ← expression true fuel
    expectMark .colon
    let v ← expression true fuel
    return (k, v) :: (← dictEntries false fuel)

/-- One expression, or several as a tuple. Nothing at all is an empty tuple inside brackets only. -/
def tupleOr (choices bracketed : Bool) : Nat → Reader Expr
  | 0 => outOfSteps
  | fuel + 1 => do
    let (items, comma) ← tupleItems choices true fuel
    match items, comma with
    | [e], false => return e
    | [], false =>
      if bracketed then return .tuple [] else fail (.noExpression (← describeNext))
    | items, _ => return .tuple items

/-- The items of a tuple, and whether a comma follows any of them. -/
def tupleItems (choices first : Bool) : Nat → Reader (List Expr × Bool)
  | 0 => return ([], false)
  | fuel + 1 => do
    if !first then expectMark .comma
    if ← atTupleEnd then return ([], false)
    let e ← expression choices fuel
    if ← nextIsMark .comma then
      let (items, _) ← tupleItems choices false fuel
      return (e :: items, true)
    else return ([e], false)

/-- Members, items and calls behind an operand. -/
def postfixes (e : Expr) : Nat → Reader Expr
  | 0 => return e
  | fuel + 1 => do
    match ← next? with
    | some (.mark .dot) | some (.mark .lbracket) => postfixes (← subscripted e fuel) fuel
    | some (.mark .lparen) =>
      let a ← arguments fuel
      postfixes (.call e a.args a.named a.spread a.spreadNamed) fuel
    | _ => return e

/-- Filters, tests and calls behind an operand. -/
def filtersAfter (e : Expr) : Nat → Reader Expr
  | 0 => return e
  | fuel + 1 => do
    match ← next? with
    | some (.mark .pipe) => filtersAfter (← filtered e fuel) fuel
    | some (.name "is") => filtersAfter (← tested e fuel) fuel
    | some (.mark .lparen) =>
      let a ← arguments fuel
      filtersAfter (.call e a.args a.named a.spread a.spreadNamed) fuel
    | _ => return e

/-- A member or item of an operand. -/
def subscripted (e : Expr) : Nat → Reader Expr
  | 0 => return e
  | fuel + 1 => do
    if ← skipMark .dot then
      let found ← next?
      skip
      match found with
      | some (.name s) => return .member e s
      | some (.int n) => return .item e (.const (.int n))
      | _ => fail .noAttributeName
    else
      skip
      let keys ← subscripts true fuel
      expectMark .rbracket
      match keys with
      | [.key k] => return .item e k
      | [.slice a b c] => return .slice e a b c
      | keys =>
        return .item e (.tuple (keys.map fun
          | .key k => k
          | .slice .. => .const .none))

/-- What stands between square brackets. -/
def subscripts (first : Bool) : Nat → Reader (List Subscript)
  | 0 => return []
  | fuel + 1 => do
    if ← nextIsMark .rbracket then return []
    if !first then expectMark .comma
    let s ← subscript fuel
    return s :: (← subscripts false fuel)

def subscript : Nat → Reader Subscript
  | 0 => outOfSteps
  | fuel + 1 => do
    if ← skipMark .colon then sliceAfter none fuel
    else
      let e ← expression true fuel
      if ← skipMark .colon then sliceAfter (some e) fuel
      else return .key e

/-- The second and third part of a slice. -/
def sliceAfter (start : Option Expr) : Nat → Reader Subscript
  | 0 => outOfSteps
  | fuel + 1 => do
    let stop ← if ← nextIsMark .colon then pure none else slicePart fuel
    let step ← if ← skipMark .colon then slicePart fuel else pure none
    return .slice start stop step

/-- The last part of a slice so far, if one is written. -/
def slicePart : Nat → Reader (Option Expr)
  | 0 => return none
  | fuel + 1 => do
    if (← nextIsMark .rbracket) || (← nextIsMark .comma) then return none
    else some <$> expression true fuel

/-- The arguments of a call with their brackets. -/
def arguments : Nat → Reader Arguments
  | 0 => outOfSteps
  | fuel + 1 => do
    expectMark .lparen
    let a ← argumentsAfter {} true fuel
    expectMark .rparen
    return a

/-- More arguments, up to the closing bracket. Named ones follow the others and spread ones come last. -/
def argumentsAfter (a : Arguments) (first : Bool) : Nat → Reader Arguments
  | 0 => return a
  | fuel + 1 => do
    if ← nextIsMark .rparen then return a
    if !first then expectMark .comma
    if ← nextIsMark .rparen then return a
    if ← nextIsMark .star then
      if a.spread.isSome || a.spreadNamed.isSome then fail .badCall
      skip
      let e ← expression true fuel
      argumentsAfter { a with spread := some e } false fuel
    else if ← nextIsMark .doubleStar then
      if a.spreadNamed.isSome then fail .badCall
      skip
      let e ← expression true fuel
      argumentsAfter { a with spreadNamed := some e } false fuel
    else
      match ← argumentName? with
      | some name =>
        if a.spreadNamed.isSome then fail .badCall
        skip
        skip
        let e ← expression true fuel
        argumentsAfter { a with named := a.named ++ [(name, e)] } false fuel
      | none =>
        if a.spread.isSome || a.spreadNamed.isSome || !a.named.isEmpty then fail .badCall
        let e ← expression true fuel
        argumentsAfter { a with args := a.args ++ [e] } false fuel

/-- One or more filters, each behind a bar. -/
def filtered (e : Expr) : Nat → Reader Expr
  | 0 => return e
  | fuel + 1 => do
    if ← skipMark .pipe then
      let name ← dottedName fuel
      let a ← if ← nextIsMark .lparen then arguments fuel else pure {}
      filtered (.filter e name a.args a.named a.spread a.spreadNamed) fuel
    else return e

/-- Names joined by dots. -/
def dottedName : Nat → Reader String
  | 0 => outOfSteps
  | fuel + 1 => do
    let name ← expectName
    if ← skipMark .dot then return name ++ "." ++ (← dottedName fuel)
    else return name

/-- A test of an operand. -/
def tested (e : Expr) : Nat → Reader Expr
  | 0 => return e
  | fuel + 1 => do
    skip
    let negated ← skipName "not"
    let name ← dottedName fuel
    let a ←
      if ← nextIsMark .lparen then arguments fuel
      else if ← argumentFollows then
        if ← nextIsName "is" then fail .chainedTests
        let arg ← postfixes (← primary fuel) fuel
        pure { args := [arg] }
      else pure {}
    let t := Expr.test e name a.args a.named a.spread a.spreadNamed
    return if negated then .not t else t

end

/-! ## Binders -/

/-- One item on the left of an assignment; what it is instead, if it is no binder. -/
def binderItem (members : Bool) (fuel : Nat) : Reader (Except String Binder) := do
  match ← next? with
  | some (.name s) =>
    if constant? s |>.isSome then
      skip
      return .error "const"
    else
      skip
      if members && (← nextIsMark .dot) then
        skip
        return .ok (.member s (← expectName))
      else return .ok (.name s)
  | _ =>
    let e ← primary fuel
    return e.binder?.elim (.error e.form) .ok

/-- The items on the left of an assignment, and whether a comma follows any of them. -/
def binderItems (members first : Bool) :
    Nat → Reader (List (Except String Binder) × Bool)
  | 0 => return ([], false)
  | fuel + 1 => do
    if !first then expectMark .comma
    if ← atTupleEnd then return ([], false)
    let item ← binderItem members fuel
    if ← nextIsMark .comma then
      let (items, _) ← binderItems members false fuel
      return (item :: items, true)
    else return ([item], false)

/-- What an assignment binds. -/
def assignBinder (members : Bool) (fuel : Nat) : Reader Binder := do
  let (items, comma) ← binderItems members true fuel
  match items, comma with
  | [.ok t], false => return t
  | [.error what], false => fail (.notAssignable what)
  | [], false => fail (.noExpression (← describeNext))
  | items, _ =>
    match items.mapM id with
    | .ok ts => return .tuple ts
    | .error _ => fail (.notAssignable "tuple")

/-! ## Statements -/

/-- The blocks that are open around a place: the names that each waits for and the tags that opened
them, outermost first. -/
structure Nesting where
  awaited : List (List String) := []
  tags : List String := []

namespace Nesting

def opening (n : Nesting) (tag : String) : Nesting := { n with tags := n.tags ++ [tag] }

def awaiting (n : Nesting) (names : List String) : Nesting :=
  { n with awaited := n.awaited ++ [names] }

/-- A tag that means nothing here. -/
def unknownTag (n : Nesting) (name : String) : ParseFault :=
  .unknownTag name (n.awaited.getLast?.getD []) (n.awaited.flatten.contains name) n.tags.getLast?

def unclosed (n : Nesting) : ParseFault :=
  .unclosedBlock (n.awaited.getLast?.getD []) n.tags.getLast?

end Nesting

mutual

/-- Statements up to one of the names waited for, or up to the end of the template. -/
def statements (n : Nesting) (ends : List String) : Nat → Reader (List Statement)
  | 0 => return []
  | fuel + 1 => do
    match ← next? with
    | none => return []
    | some (.data s) =>
      skip
      return .text s :: (← statements n ends fuel)
    | some .printBegin =>
      skip
      let e ← tupleOr true false fuel
      expectPrintEnd
      return .print e :: (← statements n ends fuel)
    | some .blockBegin =>
      skip
      match ← next? with
      | some (.name s) =>
        if ends.contains s then return []
        else
          let statement ← statement n s fuel
          expectBlockEnd
          return statement :: (← statements n ends fuel)
      | _ => fail .noTagName
    | some _ => fail .noTagName

/-- The body of a block: the rest of its tag and statements up to a name waited for. -/
def body (n : Nesting) (ends : List String) : Nat → Reader (List Statement)
  | 0 => return []
  | fuel + 1 => do
    let _ ← skipMark .colon
    expectBlockEnd
    let n := n.awaiting ends
    let inside ← statements n ends fuel
    if (← next?).isNone then fail n.unclosed else return inside

/-- The statement that a tag starts. -/
def statement (n : Nesting) (tag : String) : Nat → Reader Statement
  | 0 => outOfSteps
  | fuel + 1 => do
    if tag = "for" then
      skip
      loopStatement (n.opening tag) fuel
    else if tag = "if" then
      skip
      choiceStatement (n.opening tag) fuel
    else if tag = "set" then
      skip
      assignment (n.opening tag) fuel
    else fail (n.unknownTag tag)

def loopStatement (n : Nesting) : Nat → Reader Statement
  | 0 => outOfSteps
  | fuel + 1 => do
    let binder ← assignBinder false fuel
    expectWord "in"
    let items ← tupleOr false false fuel
    let test ← if ← skipName "if" then some <$> expression true fuel else pure none
    let _ ← skipName "recursive"
    let inside ← body n ["endfor", "else"] fuel
    if ← skipName "endfor" then return .loop binder items test inside []
    else
      skip
      let otherwise ← body n ["endfor"] fuel
      skip
      return .loop binder items test inside otherwise

def choiceStatement (n : Nesting) : Nat → Reader Statement
  | 0 => outOfSteps
  | fuel + 1 => do
    let (branches, otherwise) ← choiceBranches n fuel
    return .choose branches otherwise

/-- The branches of a choice from a test on. -/
def choiceBranches (n : Nesting) : Nat → Reader (List (Expr × List Statement) × List Statement)
  | 0 => return ([], [])
  | fuel + 1 => do
    let test ← tupleOr false false fuel
    let inside ← body n ["elif", "else", "endif"] fuel
    if ← skipName "elif" then
      let (branches, otherwise) ← choiceBranches n fuel
      return ((test, inside) :: branches, otherwise)
    else if ← skipName "else" then
      let otherwise ← body n ["endif"] fuel
      skip
      return ([(test, inside)], otherwise)
    else
      skip
      return ([(test, inside)], [])

def assignment (n : Nesting) : Nat → Reader Statement
  | 0 => outOfSteps
  | fuel + 1 => do
    let binder ← assignBinder true fuel
    if ← skipMark .assign then return .assign binder (← tupleOr true false fuel)
    else
      let e ← filtered .captured fuel
      let inside ← body n ["endset"] fuel
      skip
      return .capture binder e inside

end

/-- The number of steps after which a reader of so many tokens has certainly finished. -/
def parseSteps (tokens : Nat) : Nat := 24 * (tokens + 2)

/-- The tree that a list of tokens spells. -/
def parseTokens (ts : List Located) : Except ParseFault (List Statement) :=
  match ts with
  | ⟨.broken fault, _⟩ :: _ => .error fault
  | ts => (statements {} [] (parseSteps ts.length) ts).map (·.1)

/-- The tree of a template. -/
def parse (l : Layout) (source : String) : Except ParseFault (List Statement) :=
  parseTokens (scan l source)

end Emission.Template
