import Emission.Proofs.Template.Rendering

/-!
# Templates that do not tell their name

A template shows its own name in two ways: it prints what stands for it, or it fails to choose where there is no second
part to choose. Main statement: `render_of_nameless`, a program that does neither prints the same under every name.
-/

namespace Emission.Template

/-! ## Nameless programs -/

mutual

/-- Every choice in the expression has a second part. -/
def Expr.Nameless : Expr → Prop
  | .const _ | .name _ | .captured => True
  | .tuple items | .list items | .concat items => AllNameless items
  | .dict entries => EntriesNameless entries
  | .negate e | .plus e | .not e | .member e _ => e.Nameless
  | .binary _ l r | .and l r | .or l r | .item l r => l.Nameless ∧ r.Nameless
  | .compare first rest => first.Nameless ∧ ChainNameless rest
  | .choose test yes no _ => no ≠ none ∧ test.Nameless ∧ yes.Nameless ∧ OptionNameless no
  | .slice whole a b c => whole.Nameless ∧ OptionNameless a ∧ OptionNameless b ∧ OptionNameless c
  | .call e args named spread spreadNamed | .filter e _ args named spread spreadNamed
  | .test e _ args named spread spreadNamed =>
    e.Nameless ∧ AllNameless args ∧ NamedNameless named ∧ OptionNameless spread ∧ OptionNameless spreadNamed

def AllNameless : List Expr → Prop
  | [] => True
  | e :: rest => e.Nameless ∧ AllNameless rest

def EntriesNameless : List (Expr × Expr) → Prop
  | [] => True
  | (k, e) :: rest => k.Nameless ∧ e.Nameless ∧ EntriesNameless rest

def ChainNameless : List (Comparison × Expr) → Prop
  | [] => True
  | (_, e) :: rest => e.Nameless ∧ ChainNameless rest

def NamedNameless : List (String × Expr) → Prop
  | [] => True
  | (_, e) :: rest => e.Nameless ∧ NamedNameless rest

def OptionNameless : Option Expr → Prop
  | none => True
  | some e => e.Nameless

end

mutual

/-- All expressions of a statement are nameless, and it does not introduce the template. -/
def Statement.Nameless : Statement → Prop
  | .text _ | .unbind _ => True
  | .introduce => False
  | .print e | .assign _ e => e.Nameless
  | .capture _ e body => e.Nameless ∧ BodyNameless body
  | .choose branches otherwise => BranchesNameless branches ∧ BodyNameless otherwise
  | .loop _ items test body otherwise =>
    items.Nameless ∧ OptionNameless test ∧ BodyNameless body ∧ BodyNameless otherwise

def BodyNameless : List Statement → Prop
  | [] => True
  | t :: rest => t.Nameless ∧ BodyNameless rest

def BranchesNameless : List (Expr × List Statement) → Prop
  | [] => True
  | (e, body) :: rest => e.Nameless ∧ BodyNameless body ∧ BranchesNameless rest

end

/-! ## Two names -/

section Names

variable {s : Surroundings} {values : List (String × Value)} (t t' : Option String)

mutual

theorem eval_of_nameless (f : Frame) :
    ∀ e : Expr, e.Nameless → e.eval ⟨s, values, t⟩ f = e.eval ⟨s, values, t'⟩ f
  | .const _, _ | .captured, _ => by simp only [Expr.eval]
  | .name _, _ => by simp only [Expr.eval, Scene.resolve]
  | .tuple items, h | .list items, h | .concat items, h => by
    simp only [Expr.eval, evalAll_of_nameless f items h]
  | .dict entries, h => by simp only [Expr.eval, evalEntries_of_nameless f entries h]
  | .negate e, h | .plus e, h | .not e, h | .member e _, h => by
    simp only [Expr.eval, eval_of_nameless f e h]
  | .binary _ l r, h | .and l r, h | .or l r, h | .item l r, h => by
    simp only [Expr.eval, eval_of_nameless f l h.1, eval_of_nameless f r h.2]
  | .compare first rest, h => by
    simp only [Expr.eval, eval_of_nameless f first h.1, evalChain_of_nameless f rest h.2]
  | .choose test yes (some no) _, h => by
    -- the name would come up only where there is nothing to choose
    simp only [Expr.eval, evalOption, eval_of_nameless f test h.2.1, eval_of_nameless f yes h.2.2.1,
      eval_of_nameless f no h.2.2.2]
    refine bind_congr_ok fun v _ => ?_
    split
    · rfl
    · cases no.eval ⟨s, values, t'⟩ f <;> rfl
  | .choose _ _ none _, h => absurd rfl h.1
  | .slice whole a b c, h => by
    simp only [Expr.eval, eval_of_nameless f whole h.1, evalOption_of_nameless f a h.2.1,
      evalOption_of_nameless f b h.2.2.1, evalOption_of_nameless f c h.2.2.2]
  | .call e args named spread spreadNamed, h | .filter e _ args named spread spreadNamed, h
  | .test e _ args named spread spreadNamed, h => by
    simp only [Expr.eval, eval_of_nameless f e h.1, evalAll_of_nameless f args h.2.1,
      evalNamed_of_nameless f named h.2.2.1, evalOption_of_nameless f spread h.2.2.2.1,
      evalOption_of_nameless f spreadNamed h.2.2.2.2]

theorem evalAll_of_nameless (f : Frame) :
    ∀ es : List Expr, AllNameless es → evalAll ⟨s, values, t⟩ f es = evalAll ⟨s, values, t'⟩ f es
  | [], _ => by simp only [evalAll]
  | e :: rest, h => by simp only [evalAll, eval_of_nameless f e h.1, evalAll_of_nameless f rest h.2]

theorem evalEntries_of_nameless (f : Frame) :
    ∀ es : List (Expr × Expr), EntriesNameless es →
      evalEntries ⟨s, values, t⟩ f es = evalEntries ⟨s, values, t'⟩ f es
  | [], _ => by simp only [evalEntries]
  | (k, e) :: rest, h => by
    simp only [evalEntries, eval_of_nameless f k h.1, eval_of_nameless f e h.2.1,
      evalEntries_of_nameless f rest h.2.2]

theorem evalNamed_of_nameless (f : Frame) :
    ∀ es : List (String × Expr), NamedNameless es →
      evalNamed ⟨s, values, t⟩ f es = evalNamed ⟨s, values, t'⟩ f es
  | [], _ => by simp only [evalNamed]
  | (_, e) :: rest, h => by simp only [evalNamed, eval_of_nameless f e h.1, evalNamed_of_nameless f rest h.2]

theorem evalChain_of_nameless (f : Frame) :
    ∀ es : List (Comparison × Expr), ChainNameless es →
      ∀ v, evalChain ⟨s, values, t⟩ f v es = evalChain ⟨s, values, t'⟩ f v es
  | [], _, _ => by simp only [evalChain]
  | (_, e) :: rest, h, v => by
    simp only [evalChain, eval_of_nameless f e h.1, evalChain_of_nameless f rest h.2]

theorem evalOption_of_nameless (f : Frame) :
    ∀ e : Option Expr, OptionNameless e → evalOption ⟨s, values, t⟩ f e = evalOption ⟨s, values, t'⟩ f e
  | none, _ => by simp only [evalOption]
  | some e, h => by simp only [evalOption, eval_of_nameless f e h]

end

theorem keepsItem_of_nameless (f : Frame) (b : Binder) {test : Option Expr} (h : OptionNameless test) :
    keepsItem ⟨s, values, t⟩ f b test = keepsItem ⟨s, values, t'⟩ f b test := by
  funext item
  cases test with
  | none => rfl
  | some e => exact bind_congr_ok fun names _ => by rw [eval_of_nameless t t' _ e h]

mutual

theorem run_of_nameless (f : Frame) :
    ∀ u : Statement, u.Nameless → u.run ⟨s, values, t⟩ f = u.run ⟨s, values, t'⟩ f
  | .text _, _ | .unbind _, _ => by simp only [Statement.run]
  | .introduce, h => h.elim
  | .print e, h | .assign _ e, h => by simp only [Statement.run, eval_of_nameless t t' f e h]
  | .capture _ e body, h => by
    simp only [Statement.run, runAll_of_nameless f body h.2, eval_of_nameless t t' _ e h.1]
  | .choose branches otherwise, h => by
    simp only [Statement.run, runBranches_of_nameless f branches h.1, runAll_of_nameless f otherwise h.2]
  | .loop b items test body otherwise, h => by
    have hround (length : Nat) :
        loopRound ⟨s, values, t⟩ f b body length = loopRound ⟨s, values, t'⟩ f b body length := by
      funext i item
      exact bind_congr_ok fun names _ => by rw [runAll_of_nameless _ body h.2.2.1]
    simp only [run_loop, eval_of_nameless t t' f items h.1, keepsItem_of_nameless t t' f b h.2.1, hround,
      afterRounds, runAll_of_nameless f otherwise h.2.2.2]

theorem runAll_of_nameless (f : Frame) :
    ∀ body : List Statement, BodyNameless body →
      runAll ⟨s, values, t⟩ f body = runAll ⟨s, values, t'⟩ f body
  | [], _ => by simp only [runAll]
  | u :: rest, h => by
    simp only [runAll, run_of_nameless f u h.1]
    exact bind_congr_ok fun (_, f) _ => by simp only [runAll_of_nameless f rest h.2]

theorem runBranches_of_nameless (f : Frame) :
    ∀ branches : List (Expr × List Statement), BranchesNameless branches →
      runBranches ⟨s, values, t⟩ f branches = runBranches ⟨s, values, t'⟩ f branches
  | [], _ => by simp only [runBranches]
  | (e, body) :: rest, h => by
    simp only [runBranches, eval_of_nameless t t' f e h.1, runAll_of_nameless f body h.2.1,
      runBranches_of_nameless f rest h.2.2]

end

/-- A nameless program prints the same under every name. -/
theorem render_of_nameless {p : Program} (h : BodyNameless p.body) :
    p.render ⟨s, values, t⟩ = p.render ⟨s, values, t'⟩ := by
  rw [Program.render, Program.render, runAll_of_nameless t t' {} p.body h]

end Names

end Emission.Template
