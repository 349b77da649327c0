import Emission.Proofs.Template.Folding
import Emission.Template.Engine

/-!
# What compiling asks

A template is compiled in surroundings, and what it formats there in a constant way is computed then and there, by
asking the renderers of the moment. Main statement: `compile_congr`, where two surroundings answer alike whatever is
asked in the first of them, a template is the same program in both.
-/

namespace Emission.Template

/-! ## Formattings -/

/-- A use of the filter `fmt`: what is formatted, and the arguments behind it. -/
structure Formatting where
  subject : Expr
  args : List Expr
  named : List (String × Expr)

/-- What is asked when it is compiled: its own constants, if it is made of constants alone. -/
def Formatting.Asks (s : Surroundings) (x : Formatting) (q : Question) : Prop :=
  x.subject.constant? s = .ok (some q.value) ∧ constants? s x.args = .ok (some q.arguments) ∧
    namedConstants? s x.named = .ok (some q.named)

/-- A filter formats if it is `fmt` and nothing is spread out among its arguments. -/
def formattingOf (x : Formatting) (name : String) (spread spreadNamed : Option Expr) : List Formatting :=
  if Filter.ofName? name = some .fmt ∧ spread = none ∧ spreadNamed = none then [x] else []

mutual

/-- Wherever an expression formats. -/
def Expr.formattings : Expr → List Formatting
  | .const _ | .name _ | .captured => []
  | .tuple items | .list items | .concat items => formattingsOfAll items
  | .dict entries => formattingsOfEntries entries
  | .negate e | .plus e | .not e | .member e _ => e.formattings
  | .binary _ l r | .and l r | .or l r | .item l r => l.formattings ++ r.formattings
  | .compare first rest => first.formattings ++ formattingsOfChain rest
  | .choose test yes no _ => test.formattings ++ yes.formattings ++ formattingsOfOption no
  | .slice whole a b c =>
    whole.formattings ++ formattingsOfOption a ++ formattingsOfOption b ++ formattingsOfOption c
  | .call e args named spread spreadNamed | .test e _ args named spread spreadNamed =>
    e.formattings ++ formattingsOfAll args ++ formattingsOfNamed named ++ formattingsOfOption spread ++
      formattingsOfOption spreadNamed
  | .filter e name args named spread spreadNamed =>
    formattingOf ⟨e, args, named⟩ name spread spreadNamed ++ e.formattings ++ formattingsOfAll args ++
      formattingsOfNamed named ++ formattingsOfOption spread ++ formattingsOfOption spreadNamed

def formattingsOfAll : List Expr → List Formatting
  | [] => []
  | e :: rest => e.formattings ++ formattingsOfAll rest

def formattingsOfEntries : List (Expr × Expr) → List Formatting
  | [] => []
  | (k, e) :: rest => k.formattings ++ e.formattings ++ formattingsOfEntries rest

def formattingsOfChain : List (Comparison × Expr) → List Formatting
  | [] => []
  | (_, e) :: rest => e.formattings ++ formattingsOfChain rest

def formattingsOfNamed : List (String × Expr) → List Formatting
  | [] => []
  | (_, e) :: rest => e.formattings ++ formattingsOfNamed rest

def formattingsOfOption : Option Expr → List Formatting
  | none => []
  | some e => e.formattings

end

mutual

/-- Wherever the expressions of a statement format. -/
def Statement.formattings : Statement → List Formatting
  | .text _ | .introduce | .unbind _ => []
  | .print e | .assign _ e => e.formattings
  | .capture _ e body => e.formattings ++ formattingsOfBody body
  | .choose branches otherwise => formattingsOfBranches branches ++ formattingsOfBody otherwise
  | .loop _ items test body otherwise =>
    items.formattings ++ formattingsOfOption test ++ formattingsOfBody body ++ formattingsOfBody otherwise

def formattingsOfBody : List Statement → List Formatting
  | [] => []
  | t :: rest => t.formattings ++ formattingsOfBody rest

def formattingsOfBranches : List (Expr × List Statement) → List Formatting
  | [] => []
  | (e, body) :: rest => e.formattings ++ formattingsOfBody body ++ formattingsOfBranches rest

end

/-- What the text of a template asks when it is compiled. -/
def Asks (s : Surroundings) (l : Layout) (source : String) (q : Question) : Prop :=
  ∃ tree, parse l source = .ok tree ∧ ∃ x ∈ formattingsOfBody tree, x.Asks s q

/-! ## Two surroundings -/

section Congr

variable {s s' : Surroundings}

/-- Whatever is asked there in the first surroundings is answered alike in the other ones. -/
def Alike (s s' : Surroundings) (xs : List Formatting) : Prop :=
  ∀ x ∈ xs, ∀ q, x.Asks s q → s.answer q = s'.answer q

@[simp]
theorem alike_append {xs ys : List Formatting} : Alike s s' (xs ++ ys) ↔ Alike s s' xs ∧ Alike s s' ys :=
  List.forall_mem_append

/-! ## Constants -/

/-- Only `fmt` looks at the renderers. -/
theorem apply_congr (hshow : s.showAbsent = s'.showAbsent) {f : Filter} (hf : f ≠ .fmt) (v : Value)
    (args : List Value) (named : List (String × Value)) :
    f.apply s v args named = f.apply s' v args named := by
  have hrun (args : List Value) : f.run s v args = f.run s' v args := by
    unfold Filter.run
    split
    · exact absurd rfl hf
    all_goals simp_all
  simp only [Filter.apply, hrun]

mutual

/-- An expression has the same constant in both surroundings. -/
theorem constant?_congr (hshow : s.showAbsent = s'.showAbsent) :
    ∀ e : Expr, Alike s s' e.formattings → e.constant? s = e.constant? s'
  | .const _, _ | .name _, _ | .captured, _ => by simp only [Expr.constant?]
  | .call .., _ => by simp only [Expr.constant?]
  | .tuple items, h | .list items, h => by
    simp only [Expr.constant?, constants?_congr hshow items h]
  | .concat items, h => by
    simp only [Expr.constant?, constantTexts?_congr hshow items h]
  | .dict entries, h => by
    simp only [Expr.constant?, entryConstants?_congr hshow entries h]
  | .negate e, h | .plus e, h | .not e, h => by
    simp only [Expr.constant?, constant?_congr hshow e h]
  | .member e _, h => by
    simp only [Expr.constant?, constant?_congr hshow e h, hshow]
  | .binary _ l r, h | .and l r, h | .or l r, h => by
    simp only [Expr.formattings, alike_append] at h
    simp only [Expr.constant?, constant?_congr hshow l h.1, constant?_congr hshow r h.2]
  | .item l r, h => by
    simp only [Expr.formattings, alike_append] at h
    simp only [Expr.constant?, constant?_congr hshow l h.1, constant?_congr hshow r h.2, hshow]
  | .compare first rest, h => by
    simp only [Expr.formattings, alike_append] at h
    simp only [Expr.constant?, constant?_congr hshow first h.1, chainConstant?_congr hshow rest h.2]
  | .choose test yes no _, h => by
    simp only [Expr.formattings, alike_append, and_assoc] at h
    simp only [Expr.constant?, constant?_congr hshow test h.1, constant?_congr hshow yes h.2.1,
      optionConstant?_congr hshow no h.2.2]
  | .slice whole a b c, h => by
    simp only [Expr.formattings, alike_append, and_assoc] at h
    simp only [Expr.constant?, constant?_congr hshow whole h.1, partConstant?_congr hshow a h.2.1,
      partConstant?_congr hshow b h.2.2.1, partConstant?_congr hshow c h.2.2.2, hshow]
  | .test e name args named spread spreadNamed, h => by
    simp only [Expr.formattings, alike_append, and_assoc] at h
    simp only [Expr.constant?, constant?_congr hshow e h.1, constants?_congr hshow args h.2.1,
      namedConstants?_congr hshow named h.2.2.1]
  | .filter e name args named spread spreadNamed, h => by
    simp only [Expr.formattings, alike_append, and_assoc] at h
    obtain ⟨hfmt, he, hargs, hnamed, -, -⟩ := h
    have hsubject := constant?_congr hshow e he
    have hconstants := constants?_congr hshow args hargs
    have hnamedConstants := namedConstants?_congr hshow named hnamed
    by_cases hsp : spread.isSome = true ∨ spreadNamed.isSome = true
    · rw [constant?_filter_of_spread hsp, constant?_filter_of_spread hsp]
    · simp only [not_or, Bool.not_eq_true, Option.isSome_eq_false_iff, Option.isNone_iff_eq_none] at hsp
      obtain ⟨rfl, rfl⟩ := hsp
      cases hname : Filter.ofName? name with
      | none => simp only [Expr.constant?, hname]
      | some f =>
        simp only [Expr.constant?, hname, hsubject, hconstants, hnamedConstants]
        refine bind_congr_ok fun vs hvs => bind_congr_ok fun ns hns => bind_congr_ok fun v hv => ?_
        cases vs with
        | none => rfl
        | some vs =>
          cases ns with
          | none => rfl
          | some ns =>
            cases v with
            | none => rfl
            | some v =>
              -- only here do the surroundings matter, and only if the filter is `fmt`
              have happly : f.apply s v vs ns = f.apply s' v vs ns := by
                by_cases hf : f = .fmt
                · subst hf
                  have hask : (⟨e, args, named⟩ : Formatting) ∈ formattingOf ⟨e, args, named⟩ name none none := by
                    simp [formattingOf, hname]
                  exact hfmt _ hask ⟨v, vs, ns⟩
                    ⟨hsubject.trans hv, hconstants.trans hvs, hnamedConstants.trans hns⟩
                · exact apply_congr hshow hf v vs ns
              simp only [happly]

theorem constants?_congr (hshow : s.showAbsent = s'.showAbsent) :
    ∀ es : List Expr, Alike s s' (formattingsOfAll es) → constants? s es = constants? s' es
  | [], _ => by simp only [constants?]
  | e :: rest, h => by
    simp only [formattingsOfAll, alike_append] at h
    simp only [constants?, constant?_congr hshow e h.1, constants?_congr hshow rest h.2]

theorem constantTexts?_congr (hshow : s.showAbsent = s'.showAbsent) :
    ∀ es : List Expr, Alike s s' (formattingsOfAll es) → constantTexts? s es = constantTexts? s' es
  | [], _ => by simp only [constantTexts?]
  | e :: rest, h => by
    simp only [formattingsOfAll, alike_append] at h
    simp only [constantTexts?, constant?_congr hshow e h.1, constantTexts?_congr hshow rest h.2]

theorem entryConstants?_congr (hshow : s.showAbsent = s'.showAbsent) :
    ∀ es : List (Expr × Expr), Alike s s' (formattingsOfEntries es) →
    entryConstants? s es = entryConstants? s' es
  | [], _ => by simp only [entryConstants?]
  | (k, e) :: rest, h => by
    simp only [formattingsOfEntries, alike_append, and_assoc] at h
    simp only [entryConstants?, constant?_congr hshow k h.1, constant?_congr hshow e h.2.1,
      entryConstants?_congr hshow rest h.2.2]

theorem namedConstants?_congr (hshow : s.showAbsent = s'.showAbsent) :
    ∀ es : List (String × Expr), Alike s s' (formattingsOfNamed es) →
    namedConstants? s es = namedConstants? s' es
  | [], _ => by simp only [namedConstants?]
  | (n, e) :: rest, h => by
    simp only [formattingsOfNamed, alike_append] at h
    simp only [namedConstants?, constant?_congr hshow e h.1, namedConstants?_congr hshow rest h.2]

theorem chainConstant?_congr (hshow : s.showAbsent = s'.showAbsent) :
    ∀ es : List (Comparison × Expr), Alike s s' (formattingsOfChain es) →
    ∀ v, chainConstant? s v es = chainConstant? s' v es
  | [], _, v => by simp only [chainConstant?]
  | (op, e) :: rest, h, v => by
    simp only [formattingsOfChain, alike_append] at h
    simp only [chainConstant?, constant?_congr hshow e h.1, chainConstant?_congr hshow rest h.2]

theorem optionConstant?_congr (hshow : s.showAbsent = s'.showAbsent) :
    ∀ e : Option Expr, Alike s s' (formattingsOfOption e) →
    optionConstant? s e = optionConstant? s' e
  | none, _ => by simp only [optionConstant?]
  | some e, h => by
    simp only [optionConstant?, constant?_congr hshow e h]

theorem partConstant?_congr (hshow : s.showAbsent = s'.showAbsent) :
    ∀ e : Option Expr, Alike s s' (formattingsOfOption e) →
    partConstant? s e = partConstant? s' e
  | none, _ => by simp only [partConstant?]
  | some e, h => by
    simp only [partConstant?, constant?_congr hshow e h]

end

/-! ## Folding in two surroundings -/

/-- Equal parts that fold to one expression settle alike. -/
theorem fold_congr_of_parts {e : Expr} (hparts : foldParts s e = foldParts s' e)
    (hconstant : e.constant? s = e.constant? s') : e.fold s = e.fold s' := by
  rw [fold_eq_settle, fold_eq_settle, hparts]
  refine bind_congr_ok fun e₁ he₁ => ?_
  -- settling looks at the constant of the folded parts, which is that of the expression itself
  have hleft := constant?_foldParts e e₁ (hparts.trans he₁)
  have hright := constant?_foldParts e e₁ he₁
  rw [settle, settle, hleft, hright, hconstant]

mutual

theorem foldParts_congr (hshow : s.showAbsent = s'.showAbsent) :
    ∀ e : Expr, Alike s s' e.formattings → foldParts s e = foldParts s' e
  | .const _, _ | .name _, _ | .captured, _ => by simp only [foldParts]
  | .tuple items, h | .list items, h | .concat items, h => by
    simp only [foldParts, foldAll_congr hshow items h]
  | .dict entries, h => by
    simp only [foldParts, foldEntries_congr hshow entries h]
  | .negate e, h | .plus e, h | .not e, h | .member e _, h => by
    have he := fold_congr_of_parts (foldParts_congr hshow e h) (constant?_congr hshow e h)
    simp only [foldParts, he]
  | .binary _ l r, h | .and l r, h | .or l r, h | .item l r, h => by
    simp only [Expr.formattings, alike_append] at h
    have hl := fold_congr_of_parts (foldParts_congr hshow l h.1) (constant?_congr hshow l h.1)
    have hr := fold_congr_of_parts (foldParts_congr hshow r h.2) (constant?_congr hshow r h.2)
    simp only [foldParts, hl, hr]
  | .compare first rest, h => by
    simp only [Expr.formattings, alike_append] at h
    have hfirst := fold_congr_of_parts (foldParts_congr hshow first h.1)
      (constant?_congr hshow first h.1)
    simp only [foldParts, hfirst, foldChain_congr hshow rest h.2]
  | .choose test yes no _, h => by
    simp only [Expr.formattings, alike_append, and_assoc] at h
    have htest := fold_congr_of_parts (foldParts_congr hshow test h.1)
      (constant?_congr hshow test h.1)
    have hyes := fold_congr_of_parts (foldParts_congr hshow yes h.2.1)
      (constant?_congr hshow yes h.2.1)
    simp only [foldParts, htest, hyes, foldOption_congr hshow no h.2.2]
  | .slice whole a b c, h => by
    simp only [Expr.formattings, alike_append, and_assoc] at h
    have hwhole := fold_congr_of_parts (foldParts_congr hshow whole h.1)
      (constant?_congr hshow whole h.1)
    simp only [foldParts, hwhole, foldOption_congr hshow a h.2.1, foldOption_congr hshow b h.2.2.1,
      foldOption_congr hshow c h.2.2.2]
  | .filter e _ args named spread spreadNamed, h => by
    simp only [Expr.formattings, alike_append, and_assoc] at h
    replace h := h.2
    have he := fold_congr_of_parts (foldParts_congr hshow e h.1) (constant?_congr hshow e h.1)
    simp only [foldParts, he, foldAll_congr hshow args h.2.1, foldNamed_congr hshow named h.2.2.1,
      foldOption_congr hshow spread h.2.2.2.1, foldOption_congr hshow spreadNamed h.2.2.2.2]
  | .call e args named spread spreadNamed, h | .test e _ args named spread spreadNamed, h => by
    simp only [Expr.formattings, alike_append, and_assoc] at h
    have he := fold_congr_of_parts (foldParts_congr hshow e h.1) (constant?_congr hshow e h.1)
    simp only [foldParts, he, foldAll_congr hshow args h.2.1, foldNamed_congr hshow named h.2.2.1,
      foldOption_congr hshow spread h.2.2.2.1, foldOption_congr hshow spreadNamed h.2.2.2.2]

theorem foldAll_congr (hshow : s.showAbsent = s'.showAbsent) :
    ∀ es : List Expr, Alike s s' (formattingsOfAll es) → foldAll s es = foldAll s' es
  | [], _ => by simp only [foldAll]
  | e :: rest, h => by
    simp only [formattingsOfAll, alike_append] at h
    have he := fold_congr_of_parts (foldParts_congr hshow e h.1) (constant?_congr hshow e h.1)
    simp only [foldAll, he, foldAll_congr hshow rest h.2]

theorem foldEntries_congr (hshow : s.showAbsent = s'.showAbsent) :
    ∀ es : List (Expr × Expr), Alike s s' (formattingsOfEntries es) → foldEntries s es = foldEntries s' es
  | [], _ => by simp only [foldEntries]
  | (k, e) :: rest, h => by
    simp only [formattingsOfEntries, alike_append, and_assoc] at h
    have hk := fold_congr_of_parts (foldParts_congr hshow k h.1) (constant?_congr hshow k h.1)
    have he := fold_congr_of_parts (foldParts_congr hshow e h.2.1) (constant?_congr hshow e h.2.1)
    simp only [foldEntries, hk, he, foldEntries_congr hshow rest h.2.2]

theorem foldChain_congr (hshow : s.showAbsent = s'.showAbsent) :
    ∀ es : List (Comparison × Expr), Alike s s' (formattingsOfChain es) → foldChain s es = foldChain s' es
  | [], _ => by simp only [foldChain]
  | (_, e) :: rest, h => by
    simp only [formattingsOfChain, alike_append] at h
    have he := fold_congr_of_parts (foldParts_congr hshow e h.1) (constant?_congr hshow e h.1)
    simp only [foldChain, he, foldChain_congr hshow rest h.2]

theorem foldNamed_congr (hshow : s.showAbsent = s'.showAbsent) :
    ∀ es : List (String × Expr), Alike s s' (formattingsOfNamed es) → foldNamed s es = foldNamed s' es
  | [], _ => by simp only [foldNamed]
  | (_, e) :: rest, h => by
    simp only [formattingsOfNamed, alike_append] at h
    have he := fold_congr_of_parts (foldParts_congr hshow e h.1) (constant?_congr hshow e h.1)
    simp only [foldNamed, he, foldNamed_congr hshow rest h.2]

theorem foldOption_congr (hshow : s.showAbsent = s'.showAbsent) :
    ∀ e : Option Expr, Alike s s' (formattingsOfOption e) → foldOption s e = foldOption s' e
  | none, _ => by simp only [foldOption]
  | some e, h => by
    have he := fold_congr_of_parts (foldParts_congr hshow e h) (constant?_congr hshow e h)
    simp only [foldOption, he]

end

/-- An expression is folded to one expression in both surroundings. -/
theorem fold_congr (hshow : s.showAbsent = s'.showAbsent) {e : Expr} (h : Alike s s' e.formattings) :
    e.fold s = e.fold s' :=
  fold_congr_of_parts (foldParts_congr hshow e h) (constant?_congr hshow e h)

/-! ## Preparing in two surroundings -/

theorem prepareExpr_congr (hshow : s.showAbsent = s'.showAbsent) {e : Expr} (h : Alike s s' e.formattings)
    (soft : Bool) : prepareExpr s soft e = prepareExpr s' soft e := by
  rw [prepareExpr, prepareExpr, fold_congr hshow h]

theorem preparePrint_congr (hshow : s.showAbsent = s'.showAbsent) {e : Expr} (h : Alike s s' e.formattings)
    (soft : Bool) : preparePrint s soft e = preparePrint s' soft e := by
  rw [preparePrint, preparePrint, constant?_congr hshow e h, prepareExpr_congr hshow h]

/-! ## Preparing statements -/

theorem formattingsOfBody_behindMark (own : List String) (body : List Statement) :
    formattingsOfBody (behindMark own body) = formattingsOfBody body := by
  unfold behindMark
  split <;> rfl

mutual

/-- Marking scopes leaves the expressions as they are. -/
theorem formattings_scoped (known : List String) :
    ∀ t : Statement, (t.scoped known).formattings = t.formattings
  | .text _ | .introduce | .unbind _ | .print _ | .assign _ _ => by simp only [Statement.scoped]
  | .capture _ e body => by
    simp only [Statement.scoped, Statement.formattings, formattingsOfBody_behindMark,
      formattingsOfBody_allScoped _ body]
  | .choose branches otherwise => by
    simp only [Statement.scoped, Statement.formattings, formattingsOfBranches_branchesScoped known branches,
      formattingsOfBody_allScoped known otherwise]
  | .loop _ items test body otherwise => by
    simp only [Statement.scoped, Statement.formattings, formattingsOfBody_behindMark,
      formattingsOfBody_allScoped _ body, formattingsOfBody_allScoped _ otherwise]

theorem formattingsOfBody_allScoped (known : List String) :
    ∀ body : List Statement, formattingsOfBody (allScoped known body) = formattingsOfBody body
  | [] => by simp only [allScoped]
  | t :: rest => by
    simp only [allScoped, formattingsOfBody, formattings_scoped known t, formattingsOfBody_allScoped known rest]

theorem formattingsOfBranches_branchesScoped (known : List String) :
    ∀ branches : List (Expr × List Statement),
      formattingsOfBranches (branchesScoped known branches) = formattingsOfBranches branches
  | [] => by simp only [branchesScoped]
  | (e, body) :: rest => by
    simp only [branchesScoped, formattingsOfBranches, formattingsOfBody_allScoped known body,
      formattingsOfBranches_branchesScoped known rest]

end

theorem formattingsOfBody_markScopes (body : List Statement) :
    formattingsOfBody (markScopes body) = formattingsOfBody body := by
  unfold markScopes
  split
  · simp only [formattingsOfBody, Statement.formattings, List.nil_append, formattingsOfBody_behindMark,
      formattingsOfBody_allScoped]
  · rw [formattingsOfBody_behindMark, formattingsOfBody_allScoped]

mutual

theorem prepare_congr (hshow : s.showAbsent = s'.showAbsent) (soft : Bool) :
    ∀ t : Statement, Alike s s' t.formattings → t.prepare s soft = t.prepare s' soft
  | .text _, _ | .introduce, _ | .unbind _, _ => by simp only [Statement.prepare]
  | .print e, h => by
    simp only [Statement.prepare, preparePrint_congr hshow h]
  | .assign _ e, h => by
    simp only [Statement.prepare, prepareExpr_congr hshow h]
  | .capture _ e body, h => by
    simp only [Statement.formattings, alike_append] at h
    simp only [Statement.prepare, prepareAll_congr hshow false body h.2, prepareExpr_congr hshow h.1]
  | .choose branches otherwise, h => by
    simp only [Statement.formattings, alike_append] at h
    simp only [Statement.prepare, prepareBranches_congr hshow branches h.1,
      prepareAll_congr hshow true otherwise h.2]
  | .loop _ items test body otherwise, h => by
    simp only [Statement.formattings, alike_append, and_assoc] at h
    have htest : test.mapM (prepareExpr s false) = test.mapM (prepareExpr s' false) := by
      cases test with
      | none => rfl
      | some e =>
        have he := prepareExpr_congr hshow h.2.1 false
        simp only [Option.mapM_some, he]
    simp only [Statement.prepare, htest, prepareExpr_congr hshow h.1,
      prepareAll_congr hshow false body h.2.2.1, prepareAll_congr hshow false otherwise h.2.2.2]

theorem prepareAll_congr (hshow : s.showAbsent = s'.showAbsent) (soft : Bool) :
    ∀ body : List Statement, Alike s s' (formattingsOfBody body) → prepareAll s soft body = prepareAll s' soft body
  | [], _ => by simp only [prepareAll]
  | t :: rest, h => by
    simp only [formattingsOfBody, alike_append] at h
    simp only [prepareAll, prepare_congr hshow soft t h.1, prepareAll_congr hshow soft rest h.2]

theorem prepareBranches_congr (hshow : s.showAbsent = s'.showAbsent) :
    ∀ branches : List (Expr × List Statement), Alike s s' (formattingsOfBranches branches) →
      prepareBranches s branches = prepareBranches s' branches
  | [], _ => by simp only [prepareBranches]
  | (e, body) :: rest, h => by
    simp only [formattingsOfBranches, alike_append, and_assoc] at h
    simp only [prepareBranches, prepareExpr_congr hshow h.1, prepareAll_congr hshow true body h.2.1,
      prepareBranches_congr hshow rest h.2.2]

end

/-- A template is one program in two surroundings that answer alike whatever it asks in the first of them. -/
theorem compile_congr (hshow : s.showAbsent = s'.showAbsent) {l : Layout} {source : String}
    (h : ∀ q, Asks s l source q → s.answer q = s'.answer q) : compile s l source = compile s' l source := by
  unfold compile
  refine bind_congr_ok fun tree htree => ?_
  have halike : Alike s s' (formattingsOfBody (markScopes tree)) := by
    rw [formattingsOfBody_markScopes]
    exact fun x hx q hq => h q ⟨tree, mapError_eq_ok_iff.mp htree, x, hx, hq⟩
  rw [prepareAll_congr hshow false _ halike]

end Congr

end Emission.Template
