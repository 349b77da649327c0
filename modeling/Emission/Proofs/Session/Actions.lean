import Emission.Proofs.Journal
import Emission.Session.Templates

/-!
# Running actions

How a chain of actions runs, step by step, and what components record on the way: a record goes to the journal and
to the files of its handlers, and changes nothing else of a session.
-/

namespace Emission.Session

variable {α β : Type} {s s' : Session}

/-! ## Chains of actions -/

theorem perform_bind (a : Action α) (k : α → Action β) (s : Session) :
    s.perform (a >>= k) =
      match s.perform a with
      | (.ok x, s') => s'.perform (k x)
      | (.error e, s') => (.error e, s') := by
  show (ExceptT.bindCont k (a s).1) (a s).2 = _
  unfold perform StateT.run ExceptT.run
  rcases a s with ⟨e | x, s'⟩
  · rfl
  · rfl

theorem perform_bind_of_ok {a : Action α} {x : α} (h : s.perform a = (.ok x, s')) (k : α → Action β) :
    s.perform (a >>= k) = s'.perform (k x) := by
  rw [perform_bind, h]

theorem perform_bind_of_error {a : Action α} {e : Fault} (h : s.perform a = (.error e, s'))
    (k : α → Action β) : s.perform (a >>= k) = (.error e, s') := by
  rw [perform_bind, h]

/-- A chain of actions that succeeds succeeds at its first step. -/
theorem perform_bind_eq_ok_iff {a : Action α} {k : α → Action β} {b : β} :
    s.perform (a >>= k) = (.ok b, s') ↔
      ∃ x s₁, s.perform a = (.ok x, s₁) ∧ s₁.perform (k x) = (.ok b, s') := by
  rw [perform_bind]
  rcases s.perform a with ⟨e | x, s₁⟩
  · simp
  · constructor
    · exact fun h => ⟨x, s₁, rfl, h⟩
    · rintro ⟨y, s₂, heq, h⟩
      obtain ⟨hx, hs⟩ := Prod.mk.inj heq
      obtain rfl := Except.ok.inj hx
      rw [hs]
      exact h

theorem perform_map (f : α → β) (a : Action α) (s : Session) :
    s.perform (f <$> a) = ((s.perform a).1.map f, (s.perform a).2) := by
  show s.perform (a >>= fun x => pure (f x)) = _
  rw [perform_bind]
  rcases s.perform a with ⟨e | x, s'⟩
  · rfl
  · rfl

theorem perform_ofExcept (r : Except Fault α) (s : Session) :
    s.perform (MonadExcept.ofExcept r) = (r, s) := by
  cases r <;> rfl

theorem perform_ofExcept_eq_ok_iff {r : Except Fault α} {x : α} :
    s.perform (MonadExcept.ofExcept r : Action α) = (.ok x, s') ↔ r = .ok x ∧ s = s' := by
  cases r with
  | error e =>
    show ((Except.error e, s) : Except Fault α × Session) = _ ↔ _
    simp
  | ok y =>
    show ((Except.ok y, s) : Except Fault α × Session) = _ ↔ _
    simp

theorem perform_get : s.perform get = (.ok s, s) := rfl

theorem perform_pure (x : α) : s.perform (pure x) = (.ok x, s) := rfl

theorem perform_attempt (a : Action α) (s : Session) :
    s.perform (attempt a) = (.ok (s.perform a).1, (s.perform a).2) := rfl

theorem perform_modify (f : Session → Session) (s : Session) :
    s.perform (modify f : Action Unit) = (.ok (), f s) := rfl

theorem perform_fetch_of_some {store : Session → Store α} {place : Nat} {x : α}
    (h : (store s).get? place = some x) : s.perform (fetch store place) = (.ok x, s) := by
  rw [fetch, perform_bind_of_ok perform_get]
  simp only [h]
  rfl

theorem perform_fetch_of_none {store : Session → Store α} {place : Nat}
    (h : (store s).get? place = none) :
    s.perform (fetch store place) = (.error (.noObject place), s) := by
  rw [fetch, perform_bind_of_ok perform_get]
  simp only [h]
  rfl

/-! ## Records -/

/-- What a component records. -/
abbrev Message := Component × Severity × String

/-- Journal and files after these messages were recorded. -/
def kept (j : Journal) (fs : Files) (ms : List Message) : Journal × Files :=
  ms.foldl (fun (j, fs) (component, severity, text) => j.record fs component.name severity text) (j, fs)

/-- The session after these messages were recorded. -/
def recorded (s : Session) (ms : List Message) : Session :=
  { s with journal := (kept s.journal s.files ms).1, files := (kept s.journal s.files ms).2 }

theorem recorded_append (s : Session) (ms more : List Message) :
    (s.recorded ms).recorded more = s.recorded (ms ++ more) := by
  simp only [recorded, kept, List.foldl_append]

theorem perform_record (s : Session) (component : Component) (severity : Severity) (text : String) :
    s.perform (record component severity text) = (.ok (), s.recorded [(component, severity, text)]) :=
  rfl

theorem perform_report (s : Session) (component : Component) (e : Journal.Event) :
    s.perform (report component e) = (.ok (), s.recorded [(component, e.severity, e.message)]) :=
  rfl

/-- A record leaves every file as it is that the journal does not write to. -/
theorem sent_recorded (s : Session) (m : Message) :
    Journal.Sent (s.journal.WritesTo s.files m.2.1) s.files (s.recorded [m]).files :=
  Journal.sent_record s.journal s.files m.1.name m.2.1 m.2.2

end Emission.Session
