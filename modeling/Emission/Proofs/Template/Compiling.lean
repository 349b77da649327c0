import Emission.Proofs.Template.Refusal

/-!
# Texts that do not compile

What can go wrong when a template is compiled. What fails while constants are computed is left for the rendering, with
two exceptions: a key that cannot be one and an integer that is too long to be written out. Main statement:
`fault_of_compile`, a text that does not compile is refused, or it has such a key or such an integer.
-/

namespace Emission.Template

open FailsAs

/-! ## Constants -/

/-- Something cannot serve as a key, or it cannot be written out. -/
def Uncomputable (m : Misuse) : Prop := m = .longInteger ∨ ∃ kind, m = .unhashable kind

variable {α β : Type} {s : Surroundings}

theorem uncomputable_attempt (r : Except Misuse (Option Value)) : FailsAs Uncomputable (attempt r) := by
  cases r with
  | error m => exact ok _
  | ok v => exact ok v

theorem uncomputable_checkKey (v : Value) : FailsAs Uncomputable v.checkKey := by
  unfold Value.checkKey
  split
  · exact error (.inr ⟨_, rfl⟩)
  · exact ok ()

theorem uncomputable_shown (v : Value) : FailsAs Uncomputable v.shown := by
  unfold Value.shown
  split
  · exact ok _
  · exact error (.inl rfl)

mutual

theorem uncomputable_constant? : ∀ e : Expr, FailsAs Uncomputable (e.constant? s)
  | .const _ | .name _ | .captured | .call .. => by
    simp only [Expr.constant?]
    exact ok _
  | .tuple items | .list items => by
    simp only [Expr.constant?]
    exact (uncomputable_constants? items).bind fun _ => ok _
  | .concat items => by
    simp only [Expr.constant?]
    exact (uncomputable_constantTexts? items).bind fun _ => ok _
  | .dict entries => by
    simp only [Expr.constant?]
    exact (uncomputable_entryConstants? entries).bind fun _ => ok _
  | .negate _ | .plus _ | .not _ | .binary .. | .member .. | .item .. | .slice .. => by
    simp only [Expr.constant?]
    exact uncomputable_attempt _
  | .compare first rest => by
    simp only [Expr.constant?]
    refine (uncomputable_constant? first).bind fun v => ?_
    cases v with
    | none => exact ok _
    | some v => exact uncomputable_attempt _
  | .and l r => by
    simp only [Expr.constant?]
    refine (uncomputable_constant? l).bind fun v => ?_
    cases v with
    | none => exact ok _
    | some v =>
      dsimp only
      split
      · exact uncomputable_constant? r
      · exact ok _
  | .or l r => by
    simp only [Expr.constant?]
    refine (uncomputable_constant? l).bind fun v => ?_
    cases v with
    | none => exact ok _
    | some v =>
      dsimp only
      split
      · exact ok _
      · exact uncomputable_constant? r
  | .choose test yes no _ => by
    simp only [Expr.constant?]
    refine (uncomputable_constant? test).bind fun v => ?_
    cases v with
    | none => exact ok _
    | some v =>
      dsimp only
      split
      · exact uncomputable_constant? yes
      · exact uncomputable_optionConstant? no
  | .filter e name args named spread spreadNamed => by
    simp only [Expr.constant?]
    split
    · refine (uncomputable_constants? args).bind fun vs => (uncomputable_namedConstants? named).bind fun ns =>
        (uncomputable_constant? e).bind fun v => ?_
      split
      · exact uncomputable_attempt _
      · exact ok _
    · exact ok _
  | .test e name args named spread spreadNamed => by
    simp only [Expr.constant?]
    split
    · refine (uncomputable_constants? args).bind fun vs => (uncomputable_namedConstants? named).bind fun ns =>
        (uncomputable_constant? e).bind fun v => ?_
      split
      · exact uncomputable_attempt _
      · exact ok _
    · exact ok _

theorem uncomputable_constants? : ∀ es : List Expr, FailsAs Uncomputable (constants? s es)
  | [] => by
    simp only [constants?]
    exact ok _
  | e :: rest => by
    simp only [constants?]
    refine (uncomputable_constant? e).bind fun v => ?_
    cases v with
    | none => exact ok _
    | some v => exact (uncomputable_constants? rest).bind fun _ => ok _

theorem uncomputable_constantTexts? : ∀ es : List Expr, FailsAs Uncomputable (constantTexts? s es)
  | [] => by
    simp only [constantTexts?]
    exact ok _
  | e :: rest => by
    simp only [constantTexts?]
    refine (uncomputable_constant? e).bind fun v => ?_
    cases v with
    | none => exact ok _
    | some v => exact (uncomputable_shown v).bind fun _ => (uncomputable_constantTexts? rest).bind fun _ => ok _

theorem uncomputable_entryConstants? : ∀ es : List (Expr × Expr), FailsAs Uncomputable (entryConstants? s es)
  | [] => by
    simp only [entryConstants?]
    exact ok _
  | (k, e) :: rest => by
    simp only [entryConstants?]
    refine (uncomputable_constant? k).bind fun key => (uncomputable_constant? e).bind fun v => ?_
    split
    · exact (uncomputable_checkKey _).bind fun _ => (uncomputable_entryConstants? rest).bind fun _ => ok _
    · exact ok _

theorem uncomputable_namedConstants? : ∀ es : List (String × Expr), FailsAs Uncomputable (namedConstants? s es)
  | [] => by
    simp only [namedConstants?]
    exact ok _
  | (_, e) :: rest => by
    simp only [namedConstants?]
    refine (uncomputable_constant? e).bind fun v => ?_
    cases v with
    | none => exact ok _
    | some v => exact (uncomputable_namedConstants? rest).bind fun _ => ok _

theorem uncomputable_optionConstant? : ∀ e : Option Expr, FailsAs Uncomputable (optionConstant? s e)
  | none => by
    simp only [optionConstant?]
    exact ok _
  | some e => by
    simp only [optionConstant?]
    exact uncomputable_constant? e

end

/-! ## Folding -/

theorem uncomputable_settle (e : Expr) : FailsAs Uncomputable (settle s e) := by
  refine (uncomputable_constant? e).bind fun v => ?_
  cases v with
  | none => exact ok _
  | some v => exact ok _

mutual

theorem uncomputable_fold : ∀ e : Expr, FailsAs Uncomputable (e.fold s)
  | .const _ | .name _ | .captured => by
    simp only [Expr.fold]
    exact ok _
  | .tuple items | .list items | .concat items => by
    simp only [Expr.fold]
    exact (uncomputable_foldAll items).bind fun _ => uncomputable_settle _
  | .dict entries => by
    simp only [Expr.fold]
    exact (uncomputable_foldEntries entries).bind fun _ => uncomputable_settle _
  | .negate e | .plus e | .not e | .member e _ => by
    simp only [Expr.fold]
    exact (uncomputable_fold e).bind fun _ => uncomputable_settle _
  | .binary _ l r | .and l r | .or l r | .item l r => by
    simp only [Expr.fold]
    exact (uncomputable_fold l).bind fun _ => (uncomputable_fold r).bind fun _ => uncomputable_settle _
  | .compare first rest => by
    simp only [Expr.fold]
    exact (uncomputable_fold first).bind fun _ => (uncomputable_foldChain rest).bind fun _ => uncomputable_settle _
  | .choose test yes no _ => by
    simp only [Expr.fold]
    exact (uncomputable_fold test).bind fun _ => (uncomputable_fold yes).bind fun _ =>
      (uncomputable_foldOption no).bind fun _ => uncomputable_settle _
  | .slice whole a b c => by
    simp only [Expr.fold]
    exact (uncomputable_fold whole).bind fun _ => (uncomputable_foldOption a).bind fun _ =>
      (uncomputable_foldOption b).bind fun _ => (uncomputable_foldOption c).bind fun _ => uncomputable_settle _
  | .call e args named spread spreadNamed => by
    simp only [Expr.fold]
    exact (uncomputable_fold e).bind fun _ => (uncomputable_foldAll args).bind fun _ =>
      (uncomputable_foldNamed named).bind fun _ => (uncomputable_foldOption spread).bind fun _ =>
        (uncomputable_foldOption spreadNamed).bind fun _ => ok _
  | .filter e _ args named spread spreadNamed | .test e _ args named spread spreadNamed => by
    simp only [Expr.fold]
    exact (uncomputable_fold e).bind fun _ => (uncomputable_foldAll args).bind fun _ =>
      (uncomputable_foldNamed named).bind fun _ => (uncomputable_foldOption spread).bind fun _ =>
        (uncomputable_foldOption spreadNamed).bind fun _ => uncomputable_settle _

theorem uncomputable_foldAll : ∀ es : List Expr, FailsAs Uncomputable (foldAll s es)
  | [] => by
    simp only [foldAll]
    exact ok _
  | e :: rest => by
    simp only [foldAll]
    exact (uncomputable_fold e).bind fun _ => (uncomputable_foldAll rest).bind fun _ => ok _

theorem uncomputable_foldEntries : ∀ es : List (Expr × Expr), FailsAs Uncomputable (foldEntries s es)
  | [] => by
    simp only [foldEntries]
    exact ok _
  | (k, e) :: rest => by
    simp only [foldEntries]
    exact (uncomputable_fold k).bind fun _ => (uncomputable_fold e).bind fun _ =>
      (uncomputable_foldEntries rest).bind fun _ => ok _

theorem uncomputable_foldChain : ∀ es : List (Comparison × Expr), FailsAs Uncomputable (foldChain s es)
  | [] => by
    simp only [foldChain]
    exact ok _
  | (_, e) :: rest => by
    simp only [foldChain]
    exact (uncomputable_fold e).bind fun _ => (uncomputable_foldChain rest).bind fun _ => ok _

theorem uncomputable_foldNamed : ∀ es : List (String × Expr), FailsAs Uncomputable (foldNamed s es)
  | [] => by
    simp only [foldNamed]
    exact ok _
  | (_, e) :: rest => by
    simp only [foldNamed]
    exact (uncomputable_fold e).bind fun _ => (uncomputable_foldNamed rest).bind fun _ => ok _

theorem uncomputable_foldOption : ∀ e : Option Expr, FailsAs Uncomputable (foldOption s e)
  | none => by
    simp only [foldOption]
    exact ok _
  | some e => by
    simp only [foldOption]
    exact (uncomputable_fold e).bind fun _ => ok _

end

/-! ## Compiling -/

/-- A text is refused, or a constant of it cannot be computed. -/
def Uncompilable (e : Fault) : Prop := e.refuses = true ∨ ∃ m, e = .misuse m ∧ Uncomputable m

theorem uncompilable_lift {r : Except Misuse α} (h : FailsAs Uncomputable r) :
    FailsAs Uncompilable (liftM r : Except Fault α) := by
  cases r with
  | error m => exact error (.inr ⟨m, rfl, h m rfl⟩)
  | ok a => exact ok a

mutual

theorem uncompilable_check (soft : Bool) : ∀ e : Expr, FailsAs Uncompilable (e.check soft)
  | .const _ | .name _ | .captured => by
    simp only [Expr.check]
    exact ok _
  | .tuple items | .list items | .concat items => by
    simp only [Expr.check]
    exact uncompilable_checkAll soft items
  | .dict entries => by
    simp only [Expr.check]
    exact uncompilable_checkEntries soft entries
  | .negate e | .plus e | .not e | .member e _ => by
    simp only [Expr.check]
    exact uncompilable_check soft e
  | .binary _ l r | .and l r | .or l r | .item l r => by
    simp only [Expr.check]
    exact (uncompilable_check soft l).bind fun _ => uncompilable_check soft r
  | .compare first rest => by
    simp only [Expr.check]
    exact (uncompilable_check soft first).bind fun _ => uncompilable_checkChain soft rest
  | .choose test yes no _ => by
    simp only [Expr.check]
    exact (uncompilable_check true yes).bind fun _ => (uncompilable_check true test).bind fun _ =>
      uncompilable_checkOption true no
  | .slice whole a b c => by
    simp only [Expr.check]
    exact (uncompilable_check soft whole).bind fun _ => (uncompilable_checkOption soft a).bind fun _ =>
      (uncompilable_checkOption soft b).bind fun _ => uncompilable_checkOption soft c
  | .call e args named spread spreadNamed => by
    simp only [Expr.check]
    exact (uncompilable_check soft e).bind fun _ => (uncompilable_checkAll soft args).bind fun _ =>
      (uncompilable_checkNamed soft named).bind fun _ => (uncompilable_checkOption soft spread).bind fun _ =>
        uncompilable_checkOption soft spreadNamed
  | .filter e _ args named spread spreadNamed | .test e _ args named spread spreadNamed => by
    simp only [Expr.check]
    split
    · exact error (.inl rfl)
    · exact (uncompilable_check soft e).bind fun _ => (uncompilable_checkAll soft args).bind fun _ =>
        (uncompilable_checkNamed soft named).bind fun _ => (uncompilable_checkOption soft spread).bind fun _ =>
          uncompilable_checkOption soft spreadNamed

theorem uncompilable_checkAll (soft : Bool) : ∀ es : List Expr, FailsAs Uncompilable (checkAll soft es)
  | [] => by
    simp only [checkAll]
    exact ok _
  | e :: rest => by
    simp only [checkAll]
    exact (uncompilable_check soft e).bind fun _ => uncompilable_checkAll soft rest

theorem uncompilable_checkEntries (soft : Bool) :
    ∀ es : List (Expr × Expr), FailsAs Uncompilable (checkEntries soft es)
  | [] => by
    simp only [checkEntries]
    exact ok _
  | (k, e) :: rest => by
    simp only [checkEntries]
    exact (uncompilable_check soft k).bind fun _ => (uncompilable_check soft e).bind fun _ =>
      uncompilable_checkEntries soft rest

theorem uncompilable_checkChain (soft : Bool) :
    ∀ es : List (Comparison × Expr), FailsAs Uncompilable (checkChain soft es)
  | [] => by
    simp only [checkChain]
    exact ok _
  | (_, e) :: rest => by
    simp only [checkChain]
    exact (uncompilable_check soft e).bind fun _ => uncompilable_checkChain soft rest

theorem uncompilable_checkNamed (soft : Bool) :
    ∀ es : List (String × Expr), FailsAs Uncompilable (checkNamed soft es)
  | [] => by
    simp only [checkNamed]
    exact ok _
  | (_, e) :: rest => by
    simp only [checkNamed]
    exact (uncompilable_check soft e).bind fun _ => uncompilable_checkNamed soft rest

theorem uncompilable_checkOption (soft : Bool) : ∀ e : Option Expr, FailsAs Uncompilable (checkOption soft e)
  | none => by
    simp only [checkOption]
    exact ok _
  | some e => by
    simp only [checkOption]
    exact uncompilable_check soft e

end

theorem uncompilable_prepareExpr (soft : Bool) (e : Expr) : FailsAs Uncompilable (prepareExpr s soft e) :=
  (uncompilable_lift (uncomputable_fold e)).bind fun e => (uncompilable_check soft e).bind fun _ => ok _

theorem uncompilable_preparePrint (soft : Bool) (e : Expr) : FailsAs Uncompilable (preparePrint s soft e) := by
  refine (uncompilable_lift (uncomputable_constant? e)).bind fun v => ?_
  cases v with
  | some v => exact (uncompilable_lift (uncomputable_shown v)).bind fun _ => ok _
  | none => exact (uncompilable_prepareExpr soft e).bind fun _ => ok _

mutual

theorem uncompilable_prepare (soft : Bool) : ∀ t : Statement, FailsAs Uncompilable (t.prepare s soft)
  | .text _ | .introduce | .unbind _ => by
    simp only [Statement.prepare]
    exact ok _
  | .print e => by
    simp only [Statement.prepare]
    exact uncompilable_preparePrint soft e
  | .assign _ e => by
    simp only [Statement.prepare]
    exact (uncompilable_prepareExpr soft e).bind fun _ => ok _
  | .capture _ e body => by
    simp only [Statement.prepare]
    exact (uncompilable_prepareAll false body).bind fun _ => (uncompilable_prepareExpr false e).bind fun _ => ok _
  | .choose branches otherwise => by
    simp only [Statement.prepare]
    exact (uncompilable_prepareBranches branches).bind fun _ => (uncompilable_prepareAll true otherwise).bind
      fun _ => ok _
  | .loop b items test body otherwise => by
    have htest : FailsAs Uncompilable (test.mapM (prepareExpr s false)) := by
      cases test with
      | none => exact ok _
      | some e => exact (uncompilable_prepareExpr false e).bind fun _ => ok _
    simp only [Statement.prepare]
    refine htest.bind fun _ => ?_
    split
    · exact error (.inl rfl)
    · exact (uncompilable_prepareExpr soft items).bind fun _ => (uncompilable_prepareAll false body).bind
        fun _ => (uncompilable_prepareAll false otherwise).bind fun _ => ok _

theorem uncompilable_prepareAll (soft : Bool) :
    ∀ body : List Statement, FailsAs Uncompilable (prepareAll s soft body)
  | [] => by
    simp only [prepareAll]
    exact ok _
  | t :: rest => by
    simp only [prepareAll]
    exact (uncompilable_prepare soft t).bind fun _ => (uncompilable_prepareAll soft rest).bind fun _ => ok _

theorem uncompilable_prepareBranches :
    ∀ branches : List (Expr × List Statement), FailsAs Uncompilable (prepareBranches s branches)
  | [] => by
    simp only [prepareBranches]
    exact ok _
  | (e, body) :: rest => by
    simp only [prepareBranches]
    exact (uncompilable_prepareExpr true e).bind fun _ => (uncompilable_prepareAll true body).bind fun _ =>
      (uncompilable_prepareBranches rest).bind fun _ => ok _

end

/-- A text that does not compile is refused, or a constant of it cannot be computed. -/
theorem fault_of_compile {l : Layout} {source : String} {e : Fault} (h : compile s l source = .error e) :
    Uncompilable e := by
  have hparse : FailsAs Uncompilable ((parse l source).mapError Fault.malformed) := by
    cases parse l source with
    | error fault => exact error (.inl rfl)
    | ok tree => exact ok tree
  exact hparse.bind (fun tree => (uncompilable_prepareAll false _).bind fun _ => ok _) e h

end Emission.Template
