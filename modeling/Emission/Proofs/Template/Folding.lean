import Emission.Proofs.Fault
import Emission.Template.Program

/-!
# Constant folding

Folding computes the constant parts of an expression from the inside out. Main statement:
`constant?_foldParts`, the constant of an expression is the same whether its parts are folded before or not.
-/

namespace Emission.Template

/-! ## Constants and folding -/

section Fold

variable {s : Surroundings}

/-- An expression whose parts are folded, before it is settled itself. -/
def foldParts (s : Surroundings) : Expr → Except Misuse Expr
  | .tuple items => do return .tuple (← foldAll s items)
  | .list items => do return .list (← foldAll s items)
  | .dict entries => do return .dict (← foldEntries s entries)
  | .negate e => do return .negate (← e.fold s)
  | .plus e => do return .plus (← e.fold s)
  | .not e => do return .not (← e.fold s)
  | .binary op l r => do return .binary op (← l.fold s) (← r.fold s)
  | .concat items => do return .concat (← foldAll s items)
  | .compare first rest => do return .compare (← first.fold s) (← foldChain s rest)
  | .and l r => do return .and (← l.fold s) (← r.fold s)
  | .or l r => do return .or (← l.fold s) (← r.fold s)
  | .choose test yes no line => do
    return .choose (← test.fold s) (← yes.fold s) (← foldOption s no) line
  | .member whole name => do return .member (← whole.fold s) name
  | .item whole key => do return .item (← whole.fold s) (← key.fold s)
  | .slice whole a b c => do
    return .slice (← whole.fold s) (← foldOption s a) (← foldOption s b) (← foldOption s c)
  | .call f args named spread spreadNamed => do
    return .call (← f.fold s) (← foldAll s args) (← foldNamed s named) (← foldOption s spread)
      (← foldOption s spreadNamed)
  | .filter e name args named spread spreadNamed => do
    return .filter (← e.fold s) name (← foldAll s args) (← foldNamed s named)
      (← foldOption s spread) (← foldOption s spreadNamed)
  | .test e name args named spread spreadNamed => do
    return .test (← e.fold s) name (← foldAll s args) (← foldNamed s named)
      (← foldOption s spread) (← foldOption s spreadNamed)
  | e => .ok e

theorem settle_const (v : Value) : settle s (.const v) = .ok (.const v) := by
  simp [settle, Expr.constant?]

theorem settle_name (n : String) : settle s (.name n) = .ok (.name n) := by
  simp [settle, Expr.constant?]

theorem settle_captured : settle s .captured = .ok .captured := by
  simp [settle, Expr.constant?]

theorem settle_call (f : Expr) (args : List Expr) (named : List (String × Expr))
    (spread spreadNamed : Option Expr) :
    settle s (.call f args named spread spreadNamed) =
      .ok (.call f args named spread spreadNamed) := by
  simp [settle, Expr.constant?]

/-- Folding an expression is folding its parts and settling what comes of them. -/
theorem fold_eq_settle (e : Expr) : e.fold s = foldParts s e >>= settle s := by
  cases e with
  | const v => simp [Expr.fold, foldParts, settle_const]
  | name n => simp [Expr.fold, foldParts, settle_name]
  | captured => simp [Expr.fold, foldParts, settle_captured]
  | call f args named spread spreadNamed => simp [Expr.fold, foldParts, settle_call]
  | _ => simp [Expr.fold, foldParts]

theorem constant?_of_settle {e e' : Expr} (h : settle s e = .ok e') :
    e'.constant? s = e.constant? s := by
  simp only [settle, bind_eq_ok_iff] at h
  obtain ⟨found, hfound, h⟩ := h
  cases found with
  | none =>
    obtain rfl : e = e' := Except.ok.inj h
    rfl
  | some v =>
    by_cases hlasting : isLasting v = true
    · obtain rfl : Expr.const v = e' := by simpa [hlasting] using h
      rw [hfound]
      rfl
    · obtain rfl : e = e' := by simpa [hlasting] using h
      rfl

/-- Where arguments are spread out there is no constant. -/
theorem constant?_filter_of_spread {spread spreadNamed : Option Expr}
    (h : spread.isSome = true ∨ spreadNamed.isSome = true) (e : Expr) (name : String)
    (args : List Expr) (named : List (String × Expr)) :
    (Expr.filter e name args named spread spreadNamed).constant? s = .ok none := by
  rw [Expr.constant?]
  · rfl
  · rintro _ - rfl rfl
    simp at h

theorem constant?_test_of_spread {spread spreadNamed : Option Expr}
    (h : spread.isSome = true ∨ spreadNamed.isSome = true) (e : Expr) (name : String)
    (args : List Expr) (named : List (String × Expr)) :
    (Expr.test e name args named spread spreadNamed).constant? s = .ok none := by
  rw [Expr.constant?]
  · rfl
  · rintro _ - rfl rfl
    simp at h

theorem isSome_foldOption {e e' : Option Expr} (h : foldOption s e = .ok e') :
    e'.isSome = e.isSome := by
  cases e with
  | none =>
    obtain rfl := Except.ok.inj h
    rfl
  | some x =>
    simp only [foldOption, bind_eq_ok_iff, pure_eq_ok, Except.ok.injEq] at h
    obtain ⟨x', -, rfl⟩ := h
    rfl

/-- What settles an expression keeps its constant, so folding keeps it if folding the parts does. -/
theorem constant?_fold_of_parts {e : Expr}
    (hparts : ∀ e₁, foldParts s e = .ok e₁ → e₁.constant? s = e.constant? s) {e' : Expr}
    (h : e.fold s = .ok e') : e'.constant? s = e.constant? s := by
  rw [fold_eq_settle, bind_eq_ok_iff] at h
  obtain ⟨e₁, he₁, hsettle⟩ := h
  rw [constant?_of_settle hsettle, hparts e₁ he₁]

mutual

/-- An expression has the same constant when its parts are folded. -/
theorem constant?_foldParts :
    ∀ (e e₁ : Expr), foldParts s e = .ok e₁ → e₁.constant? s = e.constant? s
  | .const _, _, h | .name _, _, h | .captured, _, h => by
    obtain rfl := Except.ok.inj h
    rfl
  | .tuple items, _, h | .list items, _, h => by
    simp only [foldParts, bind_eq_ok_iff, pure_eq_ok, Except.ok.injEq] at h
    obtain ⟨items', hitems, rfl⟩ := h
    simp only [Expr.constant?, constants?_foldAll items items' hitems]
  | .concat items, _, h => by
    simp only [foldParts, bind_eq_ok_iff, pure_eq_ok, Except.ok.injEq] at h
    obtain ⟨items', hitems, rfl⟩ := h
    simp only [Expr.constant?, constantTexts?_foldAll items items' hitems]
  | .dict entries, _, h => by
    simp only [foldParts, bind_eq_ok_iff, pure_eq_ok, Except.ok.injEq] at h
    obtain ⟨entries', hentries, rfl⟩ := h
    simp only [Expr.constant?, entryConstants?_foldEntries entries entries' hentries]
  | .negate e, _, h | .plus e, _, h | .not e, _, h | .member e _, _, h => by
    simp only [foldParts, bind_eq_ok_iff, pure_eq_ok, Except.ok.injEq] at h
    obtain ⟨e', he, rfl⟩ := h
    simp only [Expr.constant?, constant?_fold_of_parts (constant?_foldParts e) he]
  | .binary _ l r, _, h | .and l r, _, h | .or l r, _, h | .item l r, _, h => by
    simp only [foldParts, bind_eq_ok_iff, pure_eq_ok, Except.ok.injEq] at h
    obtain ⟨l', hl, r', hr, rfl⟩ := h
    simp only [Expr.constant?, constant?_fold_of_parts (constant?_foldParts l) hl,
      constant?_fold_of_parts (constant?_foldParts r) hr]
  | .compare first rest, _, h => by
    simp only [foldParts, bind_eq_ok_iff, pure_eq_ok, Except.ok.injEq] at h
    obtain ⟨first', hfirst, rest', hrest, rfl⟩ := h
    simp only [Expr.constant?, constant?_fold_of_parts (constant?_foldParts first) hfirst,
      chainConstant?_foldChain rest rest' hrest]
  | .choose test yes no line, _, h => by
    simp only [foldParts, bind_eq_ok_iff, pure_eq_ok, Except.ok.injEq] at h
    obtain ⟨test', htest, yes', hyes, no', hno, rfl⟩ := h
    simp only [Expr.constant?, constant?_fold_of_parts (constant?_foldParts test) htest,
      constant?_fold_of_parts (constant?_foldParts yes) hyes, optionConstant?_foldOption no no' hno]
  | .slice whole a b c, _, h => by
    simp only [foldParts, bind_eq_ok_iff, pure_eq_ok, Except.ok.injEq] at h
    obtain ⟨whole', hwhole, a', ha, b', hb, c', hc, rfl⟩ := h
    simp only [Expr.constant?, constant?_fold_of_parts (constant?_foldParts whole) hwhole,
      partConstant?_foldOption a a' ha, partConstant?_foldOption b b' hb,
      partConstant?_foldOption c c' hc]
  | .call f args named spread spreadNamed, _, h => by
    simp only [foldParts, bind_eq_ok_iff, pure_eq_ok, Except.ok.injEq] at h
    obtain ⟨_, _, _, _, _, _, _, _, _, _, rfl⟩ := h
    simp only [Expr.constant?]
  | .filter e name args named spread spreadNamed, _, h
  | .test e name args named spread spreadNamed, _, h => by
    simp only [foldParts, bind_eq_ok_iff, pure_eq_ok, Except.ok.injEq] at h
    obtain ⟨e', he, args', hargs, named', hnamed, spread', hspread, spreadNamed', hspreadNamed, rfl⟩ := h
    have hconstants := constants?_foldAll args args' hargs
    have hnamedConstants := namedConstants?_foldNamed named named' hnamed
    have hsubject := constant?_fold_of_parts (constant?_foldParts e) he
    have hsome := isSome_foldOption hspread
    have hsomeNamed := isSome_foldOption hspreadNamed
    -- folding keeps arguments that are spread out, and with them there is no constant before or after
    by_cases hsp : spread.isSome = true ∨ spreadNamed.isSome = true
    · have hsp' : spread'.isSome = true ∨ spreadNamed'.isSome = true := by rwa [hsome, hsomeNamed]
      simp only [constant?_filter_of_spread hsp, constant?_filter_of_spread hsp',
        constant?_test_of_spread hsp, constant?_test_of_spread hsp']
    · simp only [not_or, Bool.not_eq_true, Option.isSome_eq_false_iff, Option.isNone_iff_eq_none] at hsp
      obtain ⟨rfl, rfl⟩ := hsp
      obtain rfl := Except.ok.inj hspread
      obtain rfl := Except.ok.inj hspreadNamed
      simp only [Expr.constant?, hconstants, hnamedConstants, hsubject]

theorem constants?_foldAll :
    ∀ (es es' : List Expr), foldAll s es = .ok es' → constants? s es' = constants? s es
  | [], _, h => by
    obtain rfl := Except.ok.inj h
    rfl
  | e :: rest, _, h => by
    simp only [foldAll, bind_eq_ok_iff, pure_eq_ok, Except.ok.injEq] at h
    obtain ⟨e', he, rest', hrest, rfl⟩ := h
    simp only [constants?, constant?_fold_of_parts (constant?_foldParts e) he,
      constants?_foldAll rest rest' hrest]

theorem constantTexts?_foldAll :
    ∀ (es es' : List Expr), foldAll s es = .ok es' → constantTexts? s es' = constantTexts? s es
  | [], _, h => by
    obtain rfl := Except.ok.inj h
    rfl
  | e :: rest, _, h => by
    simp only [foldAll, bind_eq_ok_iff, pure_eq_ok, Except.ok.injEq] at h
    obtain ⟨e', he, rest', hrest, rfl⟩ := h
    simp only [constantTexts?, constant?_fold_of_parts (constant?_foldParts e) he,
      constantTexts?_foldAll rest rest' hrest]

theorem entryConstants?_foldEntries :
    ∀ (es es' : List (Expr × Expr)), foldEntries s es = .ok es' →
      entryConstants? s es' = entryConstants? s es
  | [], _, h => by
    obtain rfl := Except.ok.inj h
    rfl
  | (k, e) :: rest, _, h => by
    simp only [foldEntries, bind_eq_ok_iff, pure_eq_ok, Except.ok.injEq] at h
    obtain ⟨k', hk, e', he, rest', hrest, rfl⟩ := h
    simp only [entryConstants?, constant?_fold_of_parts (constant?_foldParts k) hk,
      constant?_fold_of_parts (constant?_foldParts e) he, entryConstants?_foldEntries rest rest' hrest]

theorem namedConstants?_foldNamed :
    ∀ (es es' : List (String × Expr)), foldNamed s es = .ok es' →
      namedConstants? s es' = namedConstants? s es
  | [], _, h => by
    obtain rfl := Except.ok.inj h
    rfl
  | (n, e) :: rest, _, h => by
    simp only [foldNamed, bind_eq_ok_iff, pure_eq_ok, Except.ok.injEq] at h
    obtain ⟨e', he, rest', hrest, rfl⟩ := h
    simp only [namedConstants?, constant?_fold_of_parts (constant?_foldParts e) he,
      namedConstants?_foldNamed rest rest' hrest]

theorem chainConstant?_foldChain :
    ∀ (es es' : List (Comparison × Expr)), foldChain s es = .ok es' →
      ∀ v, chainConstant? s v es' = chainConstant? s v es
  | [], _, h, v => by
    obtain rfl := Except.ok.inj h
    rfl
  | (op, e) :: rest, _, h, v => by
    simp only [foldChain, bind_eq_ok_iff, pure_eq_ok, Except.ok.injEq] at h
    obtain ⟨e', he, rest', hrest, rfl⟩ := h
    simp only [chainConstant?, constant?_fold_of_parts (constant?_foldParts e) he,
      chainConstant?_foldChain rest rest' hrest]

theorem optionConstant?_foldOption :
    ∀ (e e' : Option Expr), foldOption s e = .ok e' → optionConstant? s e' = optionConstant? s e
  | none, _, h => by
    obtain rfl := Except.ok.inj h
    rfl
  | some e, _, h => by
    simp only [foldOption, bind_eq_ok_iff, pure_eq_ok, Except.ok.injEq] at h
    obtain ⟨e', he, rfl⟩ := h
    exact constant?_fold_of_parts (constant?_foldParts e) he

theorem partConstant?_foldOption :
    ∀ (e e' : Option Expr), foldOption s e = .ok e' → partConstant? s e' = partConstant? s e
  | none, _, h => by
    obtain rfl := Except.ok.inj h
    rfl
  | some e, _, h => by
    simp only [foldOption, bind_eq_ok_iff, pure_eq_ok, Except.ok.injEq] at h
    obtain ⟨e', he, rfl⟩ := h
    simp only [partConstant?, constant?_fold_of_parts (constant?_foldParts e) he]

end

end Fold

end Emission.Template
