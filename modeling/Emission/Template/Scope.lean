import Emission.Template.Tree

/-!
# Scopes

A template is a scope, and so is each body of a loop and each captured block. A name that a scope binds
before it reads it, and that no scope around it mentions, belongs to that scope alone: until it is bound
it counts as unbound in the scopes within, whatever value is known under it outside the template. Binding
or reading a name in a branch of a choice is mere reading here, since the branch may not be taken.
-/

namespace Emission.Template

/-! ## Mentions -/

/-- A name that comes up in a scope, and whether it is bound there for sure. -/
structure Mention where
  name : String
  bound : Bool
  deriving DecidableEq, Repr

mutual

/-- The names that an expression reads. -/
def Expr.reads : Expr → List String
  | .const _ | .captured => []
  | .name n => [n]
  | .tuple items | .list items | .concat items => allReads items
  | .dict entries => entriesRead entries
  | .negate e | .plus e | .not e | .member e _ => e.reads
  | .binary _ l r | .and l r | .or l r | .item l r => l.reads ++ r.reads
  | .compare first rest => first.reads ++ chainReads rest
  | .choose test yes no _ => test.reads ++ yes.reads ++ optionReads no
  | .slice whole a b c => whole.reads ++ optionReads a ++ optionReads b ++ optionReads c
  | .call e args named spread spreadNamed | .filter e _ args named spread spreadNamed
  | .test e _ args named spread spreadNamed =>
    e.reads ++ allReads args ++ namedReads named ++ optionReads spread ++ optionReads spreadNamed

def allReads : List Expr → List String
  | [] => []
  | e :: rest => e.reads ++ allReads rest

def entriesRead : List (Expr × Expr) → List String
  | [] => []
  | (k, e) :: rest => k.reads ++ e.reads ++ entriesRead rest

def chainReads : List (Comparison × Expr) → List String
  | [] => []
  | (_, e) :: rest => e.reads ++ chainReads rest

def namedReads : List (String × Expr) → List String
  | [] => []
  | (_, e) :: rest => e.reads ++ namedReads rest

def optionReads : Option Expr → List String
  | none => []
  | some e => e.reads

end

mutual

/-- The names in a binder. A namespace is read, not bound. -/
def Binder.mentions : Binder → List Mention
  | .name n => [⟨n, true⟩]
  | .tuple items => allMentions items
  | .member space _ => [⟨space, false⟩]

def allMentions : List Binder → List Mention
  | [] => []
  | b :: rest => b.mentions ++ allMentions rest

end

/-- The names that a binder binds. -/
def Binder.boundNames (b : Binder) : List String := (b.mentions.filter (·.bound)).map (·.name)

def reading (names : List String) : List Mention := names.map (⟨·, false⟩)

mutual

/-- The names that come up in the scope that a statement stands in, in reading order. The bodies of loops
and captured blocks are other scopes. -/
def Statement.mentions : Statement → List Mention
  | .text _ | .introduce | .unbind _ => []
  | .print e => reading e.reads
  | .assign b e => reading e.reads ++ b.mentions
  | .capture b _ _ => b.mentions
  | .choose branches otherwise =>
    reading ((branchMentions branches ++ statementMentions otherwise).map (·.name))
  | .loop _ items _ _ _ => reading items.reads

def statementMentions : List Statement → List Mention
  | [] => []
  | s :: rest => s.mentions ++ statementMentions rest

def branchMentions : List (Expr × List Statement) → List Mention
  | [] => []
  | (test, body) :: rest => reading test.reads ++ statementMentions body ++ branchMentions rest

end

/-- The names whose first mention binds them, apart from those that are known around the scope. -/
def ownNames (known : List String) : List Mention → List String
  | [] => []
  | m :: rest =>
    let others := ownNames (m.name :: known) rest
    if m.bound && !known.contains m.name then m.name :: others else others

/-! ## The template itself

What stands for a template is there for all its scopes if the name for it is read anywhere before it is bound. -/

/-- The first of these names is read or bound as the name of the template, if any of them is. -/
def firstSelf (names : List String) (read : Bool) : Option Bool := if "self" ∈ names then some read else none

mutual

/-- The first mention of `self` in a statement reads it, unless there is none. -/
def Statement.readsSelf : Statement → Option Bool
  | .text _ | .introduce | .unbind _ => none
  | .print e => firstSelf e.reads true
  | .assign b e => (firstSelf b.boundNames false).or (firstSelf e.reads true)
  | .capture b e body =>
    ((firstSelf b.boundNames false).or (firstSelf e.reads true)).or (statementsReadSelf body)
  | .choose branches otherwise => (branchesReadSelf branches).or (statementsReadSelf otherwise)
  | .loop b items test body otherwise =>
    (((firstSelf b.boundNames false).or (firstSelf items.reads true)).or
      ((statementsReadSelf body).or (statementsReadSelf otherwise))).or (firstSelf (optionReads test) true)

def statementsReadSelf : List Statement → Option Bool
  | [] => none
  | s :: rest => s.readsSelf.or (statementsReadSelf rest)

def branchesReadSelf : List (Expr × List Statement) → Option Bool
  | [] => none
  | (test, body) :: rest =>
    ((firstSelf test.reads true).or (statementsReadSelf body)).or (branchesReadSelf rest)

end

/-! ## Marking scopes -/

/-- Statements of a scope behind the mark of its own names. -/
def behindMark (own : List String) (body : List Statement) : List Statement :=
  if own.isEmpty then body else .unbind own :: body

mutual

/-- A statement with its inner scopes marked, in a scope where some names are known. -/
def Statement.scoped (known : List String) : Statement → Statement
  | .capture b e body =>
    let ms := statementMentions body
    .capture b e (behindMark (ownNames known ms) (allScoped (ms.map (·.name) ++ known) body))
  | .choose branches otherwise =>
    .choose (branchesScoped known branches) (allScoped known otherwise)
  | .loop b items test body otherwise =>
    let ms := statementMentions body
    let inner := "loop" :: b.mentions.map (·.name) ++ known
    let ns := statementMentions otherwise
    .loop b items test
      (behindMark (ownNames inner ms) (allScoped (ms.map (·.name) ++ inner) body))
      (behindMark (ownNames known ns) (allScoped (ns.map (·.name) ++ known) otherwise))
  | s => s

def allScoped (known : List String) : List Statement → List Statement
  | [] => []
  | s :: rest => s.scoped known :: allScoped known rest

def branchesScoped (known : List String) :
    List (Expr × List Statement) → List (Expr × List Statement)
  | [] => []
  | (test, body) :: rest => (test, allScoped known body) :: branchesScoped known rest

end

/-- The statements of a template with all its scopes marked. -/
def markScopes (body : List Statement) : List Statement :=
  let ms := statementMentions body
  if statementsReadSelf body = some true then
    .introduce :: behindMark (ownNames ["self"] ms) (allScoped (ms.map (·.name) ++ ["self"]) body)
  else behindMark (ownNames [] ms) (allScoped (ms.map (·.name)) body)

end Emission.Template
