import Emission.Fault

/-!
# Chains of fallible steps

How a chain of steps that may fail runs: what it amounts to after its first step, and what is known of its
steps if the whole succeeds.
-/

namespace Emission

variable {ε α β : Type}

@[simp] theorem ok_bind (a : α) (f : α → Except ε β) : (Except.ok a >>= f) = f a := rfl

@[simp] theorem error_bind (e : ε) (f : α → Except ε β) : (Except.error e >>= f) = .error e := rfl

@[simp] theorem pure_eq_ok (a : α) : (pure a : Except ε α) = .ok a := rfl

@[simp] theorem throw_eq_error (e : ε) : (throw e : Except ε α) = .error e := rfl

@[simp] theorem map_ok (f : α → β) (a : α) : (f <$> Except.ok a : Except ε β) = .ok (f a) := rfl

@[simp] theorem map_error (f : α → β) (e : ε) : (f <$> Except.error e : Except ε β) = .error e := rfl

@[simp] theorem mapError_ok {ε' : Type} (f : ε → ε') (a : α) :
    (Except.ok a : Except ε α).mapError f = .ok a := rfl

@[simp] theorem mapError_error {ε' : Type} (f : ε → ε') (e : ε) :
    (Except.error e : Except ε α).mapError f = .error (f e) := rfl

@[simp] theorem lift_ok (a : α) : (liftM (Except.ok a : Except Misuse α) : Except Fault α) = .ok a := rfl

@[simp] theorem lift_error (m : Misuse) :
    (liftM (Except.error m : Except Misuse α) : Except Fault α) = .error (.misuse m) := rfl

/-- A chain that succeeds succeeds at its first step. -/
theorem bind_eq_ok_iff {r : Except ε α} {f : α → Except ε β} {b : β} :
    (r >>= f) = .ok b ↔ ∃ a, r = .ok a ∧ f a = .ok b := by
  cases r with
  | error e => simp
  | ok a => simp

theorem mapError_eq_ok_iff {ε' : Type} {f : ε → ε'} {r : Except ε α} {a : α} :
    r.mapError f = .ok a ↔ r = .ok a := by
  cases r with
  | error e => simp
  | ok a => simp

theorem lift_eq_ok_iff {r : Except Misuse α} {a : α} :
    (liftM r : Except Fault α) = .ok a ↔ r = .ok a :=
  mapError_eq_ok_iff

/-- A step for each item succeeds if it does for every item. -/
theorem forM_eq_ok_iff {step : α → Except ε Unit} {xs : List α} :
    xs.forM step = .ok () ↔ ∀ x ∈ xs, step x = .ok () := by
  induction xs with
  | nil => exact iff_of_true rfl nofun
  | cons x rest ih =>
    rw [List.forM, bind_eq_ok_iff, List.forall_mem_cons, ← ih]
    constructor
    · rintro ⟨_, hx, hrest⟩
      exact ⟨hx, hrest⟩
    · rintro ⟨hx, hrest⟩
      exact ⟨(), hx, hrest⟩

/-- Steps that give equal results for what comes before them give equal chains. -/
theorem bind_congr_ok {r : Except ε α} {f g : α → Except ε β} (h : ∀ a, r = .ok a → f a = g a) :
    (r >>= f) = (r >>= g) := by
  cases r with
  | error e => rfl
  | ok a => exact h a rfl

/-! ## What goes wrong -/

/-- Whatever goes wrong in a step is of a kind. -/
def FailsAs (P : ε → Prop) (r : Except ε α) : Prop := ∀ e, r = .error e → P e

namespace FailsAs

variable {P : ε → Prop}

theorem ok (a : α) : FailsAs P (.ok a) := nofun

theorem error {e : ε} (h : P e) : FailsAs P (.error e : Except ε α) := by
  rintro _ ⟨⟩
  exact h

theorem bind {r : Except ε α} {k : α → Except ε β} (hr : FailsAs P r) (hk : ∀ a, FailsAs P (k a)) :
    FailsAs P (r >>= k) := by
  cases r with
  | error e => exact error (hr e rfl)
  | ok a => exact hk a

theorem map {r : Except ε α} (hr : FailsAs P r) (k : α → β) : FailsAs P (r.map k) :=
  hr.bind fun a => ok (k a)

theorem forIn {es : List α} {f : α → PUnit → Except ε (ForInStep PUnit)} (hf : ∀ a u, FailsAs P (f a u)) :
    FailsAs P (ForIn.forIn es PUnit.unit f) := by
  induction es with
  | nil => exact ok _
  | cons a es ih =>
    rw [List.forIn_cons]
    refine (hf a _).bind fun step => ?_
    cases step with
    | done u => exact ok u
    | yield u => exact ih

end FailsAs

/-! ## Lists of fallible steps -/

/-- A list of steps fails as its first step that fails. -/
theorem mapM_eq_error_iff {f : α → Except ε β} {xs : List α} {e : ε} :
    xs.mapM f = .error e ↔
      ∃ before x after, xs = before ++ x :: after ∧ (∀ y ∈ before, ∃ z, f y = .ok z) ∧ f x = .error e := by
  induction xs with
  | nil =>
    constructor
    · nofun
    · rintro ⟨before, x, after, hxs, -, -⟩
      exact absurd hxs.symm (List.append_ne_nil_of_right_ne_nil before (List.cons_ne_nil x after))
  | cons first rest ih =>
    rw [List.mapM_cons]
    cases hfirst : f first with
    | error e' =>
      rw [error_bind]
      constructor
      · intro h
        obtain rfl := Except.error.inj h
        exact ⟨[], first, rest, rfl, fun _ hy => absurd hy List.not_mem_nil, hfirst⟩
      · rintro ⟨before, x, after, hxs, hbefore, hx⟩
        cases before with
        | nil =>
          obtain ⟨rfl, -⟩ := List.cons.inj hxs
          exact congrArg Except.error (Except.error.inj (hfirst.symm.trans hx))
        | cons y before =>
          obtain ⟨rfl, -⟩ := List.cons.inj hxs
          obtain ⟨z, hz⟩ := hbefore first List.mem_cons_self
          rw [hfirst] at hz
          cases hz
    | ok z =>
      -- a first item that succeeds does not show in an error
      have hbind : (Except.ok z >>= fun z => rest.mapM f >>= fun zs => pure (z :: zs)) = .error e ↔
          rest.mapM f = .error e := by
        rw [ok_bind]
        cases rest.mapM f <;> simp
      rw [hbind, ih]
      constructor
      · rintro ⟨before, x, after, rfl, hbefore, hx⟩
        exact ⟨first :: before, x, after, rfl, List.forall_mem_cons.mpr ⟨⟨z, hfirst⟩, hbefore⟩, hx⟩
      · rintro ⟨before, x, after, hxs, hbefore, hx⟩
        cases before with
        | nil =>
          obtain ⟨rfl, -⟩ := List.cons.inj hxs
          rw [hfirst] at hx
          cases hx
        | cons y before =>
          obtain ⟨rfl, rfl⟩ := List.cons.inj hxs
          exact ⟨before, x, after, rfl, fun y hy => hbefore y (List.mem_cons_of_mem _ hy), hx⟩

end Emission
