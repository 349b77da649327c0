import Emission.Proofs.Template.Rendering

/-!
# Faults of texts that are no templates

A text is refused as a template if it is malformed, if it needs a filter or test that does not exist, or if a
loop binds the name of its own state. Main statement: `spared_render`, a program is never refused: whatever goes
wrong while it is rendered is another kind of fault.
-/

namespace Emission

/-- The outcome of a step that does not refuse anything. -/
abbrev Spared {α : Type} (r : Except Fault α) : Prop := FailsAs (fun e => e.refuses = false) r

/-- What refuses a text is an error of templates. -/
theorem Fault.refuses_of_isTemplateError {e : Fault} (h : e.isTemplateError = false) : e.refuses = false := by
  unfold Fault.isTemplateError at h
  split at h
  all_goals first | cases h | exact h

namespace FailsAs

/-- The misuse of a value refuses nothing. -/
theorem lift {α : Type} (r : Except Misuse α) : Spared (liftM r : Except Fault α) := by
  cases r with
  | error m => exact error rfl
  | ok a => exact ok a

end FailsAs

namespace Template

open FailsAs

variable {sc : Scene}

/-! ## Expressions -/

theorem spared_filterValue (s : Surroundings) (name : String) (v : Value)
    (arguments : List Value × List (String × Value)) : Spared (filterValue s name v arguments) := by
  unfold filterValue
  split
  · exact lift _
  · exact error rfl

theorem spared_testValue (name : String) (v : Value) (arguments : List Value × List (String × Value)) :
    Spared (testValue name v arguments) := by
  unfold testValue
  split
  · exact lift _
  · exact error rfl

mutual

theorem spared_eval (f : Frame) : ∀ e : Expr, Spared (e.eval sc f)
  | .const _ | .name _ | .captured => by
    simp only [Expr.eval]
    exact ok _
  | .tuple items | .list items => by
    simp only [Expr.eval]
    exact (spared_evalAll f items).bind fun _ => ok _
  | .concat items => by
    simp only [Expr.eval]
    exact (spared_evalAll f items).bind fun _ => (lift _).bind fun _ => ok _
  | .dict entries => by
    simp only [Expr.eval]
    refine (spared_evalEntries f entries).bind fun es => ?_
    exact (FailsAs.forIn fun e _ => (lift _).bind fun _ => ok _).bind fun _ => ok _
  | .negate e | .plus e | .member e _ => by
    simp only [Expr.eval]
    exact (spared_eval f e).bind fun _ => lift _
  | .not e => by
    simp only [Expr.eval]
    exact (spared_eval f e).bind fun _ => ok _
  | .binary _ l r | .item l r => by
    simp only [Expr.eval]
    exact (spared_eval f l).bind fun _ => (spared_eval f r).bind fun _ => lift _
  | .compare first rest => by
    simp only [Expr.eval]
    exact (spared_eval f first).bind fun v => spared_evalChain f v rest
  | .and l r => by
    simp only [Expr.eval]
    refine (spared_eval f l).bind fun v => ?_
    split
    · exact spared_eval f r
    · exact ok v
  | .or l r => by
    simp only [Expr.eval]
    refine (spared_eval f l).bind fun v => ?_
    split
    · exact ok v
    · exact spared_eval f r
  | .choose test yes no _ => by
    simp only [Expr.eval]
    refine (spared_eval f test).bind fun v => ?_
    split
    · exact spared_eval f yes
    · exact (spared_evalOption f no).bind fun _ => ok _
  | .slice whole a b c => by
    simp only [Expr.eval]
    exact (spared_eval f whole).bind fun _ => (spared_evalOption f a).bind fun _ =>
      (spared_evalOption f b).bind fun _ => (spared_evalOption f c).bind fun _ => lift _
  | .call e args named spread spreadNamed => by
    simp only [Expr.eval]
    exact (spared_eval f e).bind fun _ => (spared_evalAll f args).bind fun _ =>
      (spared_evalNamed f named).bind fun _ => (spared_evalOption f spread).bind fun _ =>
        (spared_evalOption f spreadNamed).bind fun _ => (lift _).bind fun _ => lift _
  | .filter e name args named spread spreadNamed => by
    simp only [Expr.eval]
    exact (spared_eval f e).bind fun v => (spared_evalAll f args).bind fun _ =>
      (spared_evalNamed f named).bind fun _ => (spared_evalOption f spread).bind fun _ =>
        (spared_evalOption f spreadNamed).bind fun _ => (lift _).bind fun arguments =>
          spared_filterValue sc.surroundings name v arguments
  | .test e name args named spread spreadNamed => by
    simp only [Expr.eval]
    exact (spared_eval f e).bind fun v => (spared_evalAll f args).bind fun _ =>
      (spared_evalNamed f named).bind fun _ => (spared_evalOption f spread).bind fun _ =>
        (spared_evalOption f spreadNamed).bind fun _ => (lift _).bind fun arguments =>
          spared_testValue name v arguments

theorem spared_evalAll (f : Frame) : ∀ es : List Expr, Spared (evalAll sc f es)
  | [] => by
    simp only [evalAll]
    exact ok _
  | e :: rest => by
    simp only [evalAll]
    exact (spared_eval f e).bind fun _ => (spared_evalAll f rest).bind fun _ => ok _

theorem spared_evalEntries (f : Frame) : ∀ es : List (Expr × Expr), Spared (evalEntries sc f es)
  | [] => by
    simp only [evalEntries]
    exact ok _
  | (k, e) :: rest => by
    simp only [evalEntries]
    exact (spared_eval f k).bind fun _ => (spared_eval f e).bind fun _ =>
      (spared_evalEntries f rest).bind fun _ => ok _

theorem spared_evalNamed (f : Frame) : ∀ es : List (String × Expr), Spared (evalNamed sc f es)
  | [] => by
    simp only [evalNamed]
    exact ok _
  | (_, e) :: rest => by
    simp only [evalNamed]
    exact (spared_eval f e).bind fun _ => (spared_evalNamed f rest).bind fun _ => ok _

theorem spared_evalChain (f : Frame) (v : Value) :
    ∀ es : List (Comparison × Expr), Spared (evalChain sc f v es)
  | [] => by
    simp only [evalChain]
    exact ok _
  | (_, e) :: rest => by
    simp only [evalChain]
    refine (spared_eval f e).bind fun w => (lift _).bind fun holds => ?_
    split
    · exact spared_evalChain f w rest
    · exact ok _

theorem spared_evalOption (f : Frame) : ∀ e : Option Expr, Spared (evalOption sc f e)
  | none => by
    simp only [evalOption]
    exact ok _
  | some e => by
    simp only [evalOption]
    exact (spared_eval f e).bind fun _ => ok _

end

/-! ## Bindings -/

mutual

theorem spared_bind (names : List (String × Value)) (v : Value) : ∀ t : Binder, Spared (t.bind names v)
  | .name _ => by
    simp only [Binder.bind]
    exact ok _
  | .member .. => by
    simp only [Binder.bind]
    exact error rfl
  | .tuple items => by
    simp only [Binder.bind]
    split
    · exact error rfl
    · split
      · exact error rfl
      · split
        · exact error rfl
        · exact spared_bindAll names _ items

theorem spared_bindAll (names : List (String × Value)) (vs : List Value) :
    ∀ ts : List Binder, Spared (bindAll names vs ts)
  | [] => by
    simp only [bindAll]
    exact ok _
  | t :: rest => by
    cases vs with
    | nil =>
      simp only [bindAll]
      exact ok _
    | cons v vs =>
      simp only [bindAll]
      exact (spared_bind names v t).bind fun more => spared_bindAll more vs rest

end

/-! ## Statements -/

theorem spared_keptItems {test : Value → Except Fault Bool} (h : ∀ v, Spared (test v)) (vs : List Value) :
    ∀ e, (keptItems test vs).2 = some e → e.refuses = false := by
  induction vs with
  | nil => nofun
  | cons v rest ih =>
    intro e he
    rw [keptItems] at he
    split at he
    · next e' htest =>
      obtain rfl := Option.some.inj he
      exact h v _ htest
    · exact ih e he

theorem spared_rounds {round : Nat → Value → Except Fault String} (h : ∀ i v, Spared (round i v))
    (i : Nat) (vs : List Value) (printed : String) : Spared (rounds round i vs printed) := by
  induction vs generalizing i printed with
  | nil => exact ok _
  | cons v rest ih => exact (h i v).bind fun out => ih (i + 1) (printed ++ out)

theorem spared_keepsItem (f : Frame) (t : Binder) (test : Option Expr) (item : Value) :
    Spared (keepsItem sc f t test item) := by
  cases test with
  | none => exact ok _
  | some e => exact (spared_bind _ _ t).bind fun _ => (spared_eval _ e).bind fun _ => ok _

mutual

theorem spared_run (f : Frame) : ∀ t : Statement, Spared (t.run sc f)
  | .text _ | .introduce | .unbind _ => by
    simp only [Statement.run]
    exact ok _
  | .print e => by
    simp only [Statement.run]
    exact (spared_eval f e).bind fun _ => (lift _).bind fun _ => ok _
  | .assign t e => by
    simp only [Statement.run]
    split
    · exact error rfl
    · exact (spared_eval f e).bind fun v => (spared_bind f.names v t).bind fun _ => ok _
  | .capture t e body => by
    simp only [Statement.run]
    refine (spared_runAll f body).bind fun (out, inside) => ?_
    exact (spared_eval _ e).bind fun v => (spared_bind f.names v t).bind fun _ => ok _
  | .choose branches otherwise => by
    simp only [Statement.run]
    refine (spared_runBranches f branches).bind fun found => ?_
    cases found with
    | none => exact spared_runAll f otherwise
    | some result => exact ok result
  | .loop t items test body otherwise => by
    rw [run_loop]
    refine (spared_eval f items).bind fun v => (lift _).bind fun vs => ?_
    refine (spared_rounds (fun i item => (spared_bind f.names item t).bind fun names =>
      (spared_runAll _ body).bind fun _ => ok _) 0 _ "").bind fun printed => ?_
    unfold afterRounds
    split
    · next e he => exact error (spared_keptItems (spared_keepsItem f t test) vs e he)
    · split
      · exact (spared_runAll f otherwise).bind fun _ => ok _
      · exact ok _

theorem spared_runAll (f : Frame) : ∀ body : List Statement, Spared (runAll sc f body)
  | [] => by
    simp only [runAll]
    exact ok _
  | t :: rest => by
    simp only [runAll]
    refine (spared_run f t).bind fun (_, f) => ?_
    exact (spared_runAll f rest).bind fun _ => ok _

theorem spared_runBranches (f : Frame) :
    ∀ branches : List (Expr × List Statement), Spared (runBranches sc f branches)
  | [] => by
    simp only [runBranches]
    exact ok _
  | (test, body) :: rest => by
    simp only [runBranches]
    refine (spared_eval f test).bind fun v => ?_
    split
    · exact (spared_runAll f body).bind fun _ => ok _
    · exact spared_runBranches f rest

end

/-- Rendering a program never ends in the refusal of a text. -/
theorem spared_render (p : Program) (sc : Scene) : Spared (p.render sc) :=
  (spared_runAll {} p.body).map _

end Template

end Emission
