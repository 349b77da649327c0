import Emission.Template.ParseFault
import Emission.Template.Tree

/-!
# Comparing trees

A tree is read from a text by running the reader, and what comes out has to be told equal to a tree that is
written down. Trees hold doubles, which no test tells equal, so the test below knows only the forms that
come up in templates without numbers and takes all others for different. Main statement:
`eq_of_statementsAgree`, two trees that pass the test are the same.
-/

namespace Emission.Template

/-! ## The test -/

mutual

/-- The same expression, as far as the test knows its form. -/
def Expr.agrees : Expr → Expr → Bool
  | .const (.text s), .const (.text t) => s == t
  | .name s, .name t => s == t
  | .not e, .not e' => e.agrees e'
  | .choose test yes no line, .choose test' yes' no' line' =>
    test.agrees test' && yes.agrees yes' && optionAgrees no no' && line == line'
  | .member e n, .member e' n' => e.agrees e' && n == n'
  | .filter e n args [] none none, .filter e' n' args' [] none none =>
    e.agrees e' && n == n' && allAgree args args'
  | .test e n args [] none none, .test e' n' args' [] none none =>
    e.agrees e' && n == n' && allAgree args args'
  | _, _ => false

def allAgree : List Expr → List Expr → Bool
  | [], [] => true
  | e :: rest, e' :: rest' => e.agrees e' && allAgree rest rest'
  | _, _ => false

def optionAgrees : Option Expr → Option Expr → Bool
  | none, none => true
  | some e, some e' => e.agrees e'
  | _, _ => false

end

mutual

/-- The same statement, as far as the test knows its form. -/
def Statement.agrees : Statement → Statement → Bool
  | .text s, .text t => s == t
  | .print e, .print e' => e.agrees e'
  | .choose branches otherwise, .choose branches' otherwise' =>
    branchesAgree branches branches' && statementsAgree otherwise otherwise'
  | .loop (.name n) items none body otherwise, .loop (.name n') items' none body' otherwise' =>
    n == n' && items.agrees items' && statementsAgree body body' &&
      statementsAgree otherwise otherwise'
  | _, _ => false

def statementsAgree : List Statement → List Statement → Bool
  | [], [] => true
  | t :: rest, t' :: rest' => t.agrees t' && statementsAgree rest rest'
  | _, _ => false

def branchesAgree : List (Expr × List Statement) → List (Expr × List Statement) → Bool
  | [], [] => true
  | (e, body) :: rest, (e', body') :: rest' =>
    e.agrees e' && statementsAgree body body' && branchesAgree rest rest'
  | _, _ => false

end

/-- A tree was read, and it is the expected one. -/
def readsAs (found : Except ParseFault (List Statement)) (expected : List Statement) : Bool :=
  match found with
  | .ok body => statementsAgree body expected
  | .error _ => false

/-! ## What passes it is the same -/

mutual

theorem Expr.eq_of_agrees (a b : Expr) (h : a.agrees b = true) : a = b := by
  unfold Expr.agrees at h
  split at h
  · simpa using h
  · simpa using h
  · rw [Expr.eq_of_agrees _ _ h]
  · simp only [Bool.and_eq_true, beq_iff_eq] at h
    obtain ⟨⟨⟨htest, hyes⟩, hno⟩, hline⟩ := h
    rw [Expr.eq_of_agrees _ _ htest, Expr.eq_of_agrees _ _ hyes, eq_of_optionAgrees _ _ hno, hline]
  · simp only [Bool.and_eq_true, beq_iff_eq] at h
    rw [Expr.eq_of_agrees _ _ h.1, h.2]
  · simp only [Bool.and_eq_true, beq_iff_eq] at h
    obtain ⟨⟨he, hn⟩, hargs⟩ := h
    rw [Expr.eq_of_agrees _ _ he, hn, eq_of_allAgree _ _ hargs]
  · simp only [Bool.and_eq_true, beq_iff_eq] at h
    obtain ⟨⟨he, hn⟩, hargs⟩ := h
    rw [Expr.eq_of_agrees _ _ he, hn, eq_of_allAgree _ _ hargs]
  · cases h

theorem eq_of_allAgree (as bs : List Expr) (h : allAgree as bs = true) : as = bs := by
  unfold allAgree at h
  split at h
  · rfl
  · simp only [Bool.and_eq_true] at h
    rw [Expr.eq_of_agrees _ _ h.1, eq_of_allAgree _ _ h.2]
  · cases h

theorem eq_of_optionAgrees (a b : Option Expr) (h : optionAgrees a b = true) : a = b := by
  unfold optionAgrees at h
  split at h
  · rfl
  · rw [Expr.eq_of_agrees _ _ h]
  · cases h

end

mutual

theorem Statement.eq_of_agrees (a b : Statement) (h : a.agrees b = true) : a = b := by
  unfold Statement.agrees at h
  split at h
  · simpa using h
  · rw [Expr.eq_of_agrees _ _ h]
  · simp only [Bool.and_eq_true] at h
    rw [eq_of_branchesAgree _ _ h.1, eq_of_statementsAgree _ _ h.2]
  · simp only [Bool.and_eq_true, beq_iff_eq] at h
    obtain ⟨⟨⟨hn, hitems⟩, hbody⟩, hotherwise⟩ := h
    rw [hn, Expr.eq_of_agrees _ _ hitems, eq_of_statementsAgree _ _ hbody,
      eq_of_statementsAgree _ _ hotherwise]
  · cases h

theorem eq_of_statementsAgree (as bs : List Statement) (h : statementsAgree as bs = true) :
    as = bs := by
  unfold statementsAgree at h
  split at h
  · rfl
  · simp only [Bool.and_eq_true] at h
    rw [Statement.eq_of_agrees _ _ h.1, eq_of_statementsAgree _ _ h.2]
  · cases h

theorem eq_of_branchesAgree (as bs : List (Expr × List Statement))
    (h : branchesAgree as bs = true) : as = bs := by
  unfold branchesAgree at h
  split at h
  · rfl
  · simp only [Bool.and_eq_true] at h
    obtain ⟨⟨he, hbody⟩, hrest⟩ := h
    rw [Expr.eq_of_agrees _ _ he, eq_of_statementsAgree _ _ hbody, eq_of_branchesAgree _ _ hrest]
  · cases h

end

theorem eq_ok_of_readsAs {found : Except ParseFault (List Statement)} {expected : List Statement}
    (h : readsAs found expected = true) : found = .ok expected := by
  unfold readsAs at h
  split at h
  · rw [eq_of_statementsAgree _ _ h]
  · cases h

end Emission.Template
