import Emission.Proofs.Fault
import Emission.Template.Program.Render

/-!
# Rendering statements

What statements print one after the other, and what a loop over a list prints when every round of it succeeds. Main
statements: `run_loop_list`, the loop prints what its rounds print, one after the other, and leaves the names as they
are; `render_loop_between`, a template that is a loop between two texts prints the texts around that.
-/

namespace Emission.Template

variable {α : Type}

@[simp] theorem run_text (t : String) (sc : Scene) (f : Frame) : (Statement.text t).run sc f = .ok (t, f) := by
  simp only [Statement.run]

/-- A printed expression shows its value, if it has one that can be written out. -/
theorem run_print {e : Expr} {v : Value} {sc : Scene} {f : Frame} (h : e.eval sc f = .ok v) :
    (Statement.print e).run sc f = (v.shown.mapError .misuse).map (·, f) := by
  simp only [Statement.run, h, ok_bind]
  cases v.shown <;> rfl

/-- Statements print what the first of them print and then, in the frame after that, what the others print. -/
theorem runAll_append (sc : Scene) (f : Frame) (first rest : List Statement) :
    runAll sc f (first ++ rest) = (do
      let (out, f) ← runAll sc f first
      let (more, f) ← runAll sc f rest
      return (out ++ more, f)) := by
  induction first generalizing f with
  | nil => cases h : runAll sc f rest <;> simp [runAll, h]
  | cons t first ih => simp [runAll, ih, String.append_assoc]

/-! ## Loops -/

/-- The pieces that are made of items and their places, one behind the other. -/
def pieces (piece : Nat → α → String) : Nat → List α → String
  | _, [] => ""
  | i, x :: rest => piece i x ++ pieces piece (i + 1) rest

/-- A loop without a test goes through all items. -/
theorem keptItems_true (vs : List Value) : keptItems (fun _ => .ok true) vs = (vs, none) := by
  induction vs with
  | nil => rfl
  | cons v rest ih =>
    rw [keptItems, ih]
    rfl

theorem rounds_eq {round : Nat → Value → Except Fault String} {value : α → Value}
    {piece : Nat → α → String} {xs : List α} (h : ∀ i, ∀ x ∈ xs, round i (value x) = .ok (piece i x)) (i : Nat)
    (printed : String) : rounds round i (xs.map value) printed = .ok (printed ++ pieces piece i xs) := by
  induction xs generalizing i printed with
  | nil =>
    rw [pieces, String.append_empty]
    rfl
  | cons x rest ih =>
    rw [List.map_cons, rounds, h i x List.mem_cons_self, ok_bind, ih fun i y hy => h i y (List.mem_cons_of_mem x hy),
      pieces, String.append_assoc]

/-- Rounds fail with an error if one of them does and no other fails in another way. -/
theorem rounds_eq_error {round : Nat → Value → Except Fault String} {value : α → Value} {xs : List α} {e : Fault}
    (h : ∀ i, ∀ x ∈ xs, FailsAs (· = e) (round i (value x))) (hfails : ∃ x ∈ xs, ∀ i, round i (value x) = .error e)
    (i : Nat) (printed : String) : rounds round i (xs.map value) printed = .error e := by
  induction xs generalizing i printed with
  | nil =>
    obtain ⟨x, hx, -⟩ := hfails
    exact absurd hx List.not_mem_nil
  | cons x rest ih =>
    rw [List.map_cons, rounds]
    cases hround : round i (value x) with
    | error e' => rw [error_bind, h i x List.mem_cons_self e' hround]
    | ok out =>
      refine ih (fun i y hy => h i y (List.mem_cons_of_mem x hy)) ?_ (i + 1) (printed ++ out)
      obtain ⟨y, hy, hyfails⟩ := hfails
      rcases List.mem_cons.mp hy with rfl | hy
      · rw [hyfails] at hround
        cases hround
      · exact ⟨y, hy, hyfails⟩

/-- Does the test of a loop keep an item? -/
def keepsItem (sc : Scene) (f : Frame) (t : Binder) (test : Option Expr) (item : Value) :
    Except Fault Bool :=
  match test with
  | none => .ok true
  | some e => do return (← e.eval sc { f with names := ← t.bind f.names item }).truthy

/-- A round of a loop. -/
def loopRound (sc : Scene) (f : Frame) (t : Binder) (body : List Statement) (length i : Nat)
    (item : Value) : Except Fault String := do
  let names ← t.bind f.names item
  let (out, _) ← runAll sc { f with names := ("loop", .loop i length) :: names } body
  return out

/-- What a loop comes to after its rounds. -/
def afterRounds (sc : Scene) (f : Frame) (otherwise : List Statement)
    (kept : List Value × Option Fault) (printed : String) : Except Fault (String × Frame) :=
  match kept.2 with
  | some e => .error e
  | none =>
    if kept.1.isEmpty then do
      let (out, _) ← runAll sc f otherwise
      return (out, f)
    else .ok (printed, f)

/-- A loop finds its items, keeps those that it wants, and goes through them. -/
theorem run_loop (sc : Scene) (f : Frame) (t : Binder) (items : Expr) (test : Option Expr)
    (body otherwise : List Statement) :
    (Statement.loop t items test body otherwise).run sc f = (do
      let v ← items.eval sc f
      let vs ← (v.members : Except Misuse (List Value))
      let kept := keptItems (keepsItem sc f t test) vs
      let printed ← rounds (loopRound sc f t body kept.1.length) 0 kept.1 ""
      afterRounds sc f otherwise kept printed) := by
  cases test <;> rfl

/-- A loop over a list prints what its rounds print. -/
theorem run_loop_list {sc : Scene} {f : Frame} {items : Expr} {vs : List Value}
    (hitems : items.eval sc f = .ok (.list vs)) (t : Binder) (body : List Statement) :
    (Statement.loop t items none body []).run sc f =
      (rounds (loopRound sc f t body vs.length) 0 vs "").map (·, f) := by
  have hkept : keptItems (keepsItem sc f t none) vs = (vs, none) := keptItems_true vs
  rw [run_loop, hitems]
  simp only [ok_bind, Value.members, Value.members?_list, lift_ok, hkept]
  cases vs with
  | nil => rfl
  | cons v rest => rfl

section Between

variable {sc : Scene} {items : Expr} {value : α → Value} {xs : List α} {t : Binder} {body : List Statement}

/-- A template that is a loop between two texts. -/
theorem render_loop_between (hitems : items.eval sc {} = .ok (.list (xs.map value))) {piece : Nat → α → String}
    (hround : ∀ i, ∀ x ∈ xs, loopRound sc {} t body xs.length i (value x) = .ok (piece i x)) (head tail : String) :
    Program.render ⟨[.text head, .loop t items none body [], .text tail]⟩ sc =
      .ok (head ++ pieces piece 0 xs ++ tail) := by
  have hloop : (Statement.loop t items none body []).run sc {} = .ok (pieces piece 0 xs, {}) := by
    rw [run_loop_list hitems, List.length_map, rounds_eq hround, String.empty_append]
    rfl
  have hrun : runAll sc {} [.text head, .loop t items none body [], .text tail] =
      .ok (head ++ pieces piece 0 xs ++ tail, {}) := by
    simp only [runAll, run_text, hloop, ok_bind, pure_eq_ok, String.append_empty,
      String.append_assoc]
  rw [Program.render, hrun]
  rfl

/-- Nothing is printed if a round of the loop fails. -/
theorem render_loop_between_error (hitems : items.eval sc {} = .ok (.list (xs.map value))) {e : Fault}
    (hround : ∀ i, ∀ x ∈ xs, FailsAs (· = e) (loopRound sc {} t body xs.length i (value x)))
    (hfails : ∃ x ∈ xs, ∀ i, loopRound sc {} t body xs.length i (value x) = .error e) (head tail : String) :
    Program.render ⟨[.text head, .loop t items none body [], .text tail]⟩ sc = .error e := by
  have hloop : (Statement.loop t items none body []).run sc {} = .error e := by
    rw [run_loop_list hitems, List.length_map, rounds_eq_error hround hfails]
    rfl
  have hrun : runAll sc {} [.text head, .loop t items none body [], .text tail] = .error e := by
    simp only [runAll, run_text, hloop, ok_bind, error_bind]
  rw [Program.render, hrun]
  rfl

end Between

end Emission.Template
