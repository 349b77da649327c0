import Emission.Proofs.Session.Call

/-!
# Reachable sessions

The calls of a session, in any order, lead from the session at its start to the reachable ones. In these every run
can be made once more, and the cache that it uses is there. Main statement: `linked_of_reachable`. Only making runs
and drafts needs a look: whatever else is called keeps runs and drafts as they are and removes no cache.
-/

namespace Emission.Session

variable {s s' : Session}

/-- The sessions that calls lead to, whatever they answer. -/
inductive Reachable : Session → Prop
  | initial : Reachable initial
  | call {s : Session} (h : Reachable s) (call : Call) : Reachable (s.perform call.act).2

/-! ## Runs and their caches -/

/-- What runs and drafts refer to is there, and every run is like one that can be made. -/
structure Linked (s : Session) : Prop where
  cache_lt : ∀ {r run}, s.runs.get? r = some run → run.cache < s.caches.next
  grammar_ne : ∀ {r run}, s.runs.get? r = some run → run.grammar ≠ ""
  valid : ∀ {r run}, s.runs.get? r = some run → run.options.validate = .ok ()
  draft_lt : ∀ {d draft place}, s.drafts.get? d = some draft → draft.cache = some place →
    place < s.caches.next

/-- What `Linked` depends on. -/
def ties (s : Session) : Store Run × Store Run.Draft × Nat := (s.runs, s.drafts, s.caches.next)

theorem Linked.of_ties (h : Linked s) (hties : s'.ties = s.ties) : Linked s' := by
  obtain ⟨hruns, hrest⟩ := Prod.mk.inj hties
  obtain ⟨hdrafts, hcaches⟩ := Prod.mk.inj hrest
  refine ⟨fun hr => ?_, fun hr => ?_, fun hr => ?_, fun hd hplace => ?_⟩
  · rw [hcaches]
    exact h.cache_lt (hruns ▸ hr)
  · exact h.grammar_ne (hruns ▸ hr)
  · exact h.valid (hruns ▸ hr)
  · rw [hcaches]
    exact h.draft_lt (hdrafts ▸ hd) hplace

/-! ## Calls that keep runs and drafts -/

instance : Overlooks ties where
  stores _ _ _ _ _ _ _ _ := rfl
  caches s place c := congrArg (fun n => (s.runs, s.drafts, n)) (Store.next_set s.caches place c)
  record _ _ _ _ := rfl
  console _ := rfl
  detach _ _ := rfl

theorem keeps_setUpJournal (level file : Value) : Keeps ties (Session.setUpJournal level file) :=
  keeps_get_bind fun _ => keeps_ofExcept _ _

theorem keeps_setsUp {call : Call} (hcall : call.SetsUp) : Keeps ties call.act := by
  cases call with
  | loadSettings name =>
    refine keeps_bind (keeps_bind (keeps_readSettings name) fun t => ?_) fun _ => keeps_pure ()
    exact keeps_bind (keeps_setUpJournal _ _) fun _ => keeps_addSettings t
  | applyLogging place => exact keeps_bind (keeps_fetch _ place) fun _ => keeps_setUpJournal _ _
  | setUpJournal level file => exact keeps_setUpJournal level file
  | _ => exact hcall.elim

/-! ## Making runs and drafts -/

/-- A run that is added uses a cache that is there, and it could be made. -/
theorem Linked.addRun (h : Linked s) {run : Run} (hruns : s'.runs = (s.runs.add run).2)
    (hdrafts : s'.drafts = s.drafts) (hcaches : s.caches.next ≤ s'.caches.next)
    (hcache : run.cache < s'.caches.next) (hgrammar : run.grammar ≠ "")
    (hvalid : run.options.validate = .ok ()) : Linked s' where
  cache_lt hr := by
    rw [hruns] at hr
    rcases Store.get?_add_eq_some hr with hr | ⟨-, rfl⟩
    · exact Nat.lt_of_lt_of_le (h.cache_lt hr) hcaches
    · exact hcache
  grammar_ne hr := by
    rw [hruns] at hr
    rcases Store.get?_add_eq_some hr with hr | ⟨-, rfl⟩
    · exact h.grammar_ne hr
    · exact hgrammar
  valid hr := by
    rw [hruns] at hr
    rcases Store.get?_add_eq_some hr with hr | ⟨-, rfl⟩
    · exact h.valid hr
    · exact hvalid
  draft_lt hd hplace := by
    rw [hdrafts] at hd
    exact Nat.lt_of_lt_of_le (h.draft_lt hd hplace) hcaches

theorem Linked.setDraft (h : Linked s) {place : Nat} {d : Run.Draft}
    (hd : ∀ shared, d.cache = some shared → shared < s.caches.next) :
    Linked (s.perform (Session.setDraft place d)).2 where
  cache_lt hr := h.cache_lt hr
  grammar_ne hr := h.grammar_ne hr
  valid hr := h.valid hr
  draft_lt {other draft shared} hdraft hshared := by
    rcases Store.get?_set_eq_some hdraft with ⟨-, rfl⟩ | ⟨-, hbefore⟩
    · exact hd shared hshared
    · exact h.draft_lt hbefore hshared

theorem perform_createRun {grammar : String} {options : Option Options} {metadata : List (Value × Value)}
    {run : Run} (hrun : Run.make grammar options metadata s.caches.next = .ok run) :
    s.perform (createRun grammar options metadata) =
      (.ok s.runs.next, { s with caches := (s.caches.add {}).2, runs := (s.runs.add run).2 }) := by
  rw [createRun, perform_bind_of_ok perform_get, hrun, perform_bind_of_ok (perform_ofExcept _ s)]
  rfl

theorem Linked.createRun (h : Linked s) (grammar : String) (options : Option Options)
    (metadata : List (Value × Value)) : Linked (s.perform (createRun grammar options metadata)).2 := by
  cases hrun : Run.make grammar options metadata s.caches.next with
  | error e =>
    rw [Session.createRun, perform_bind_of_ok perform_get, hrun,
      perform_bind_of_error (perform_ofExcept _ s)]
    exact h
  | ok run =>
    rw [perform_createRun hrun]
    obtain ⟨hgrammar, hvalid, rfl⟩ := Run.make_eq_ok_iff.mp hrun
    refine h.addRun rfl rfl ?_ ?_ hgrammar hvalid
    · exact (Store.next_add _ _).symm ▸ Nat.le_succ _
    · exact (Store.next_add _ _).symm ▸ Nat.lt_succ_self _

theorem Linked.buildRun (h : Linked s) (place : Nat) : Linked (s.perform (buildRun place)).2 := by
  rw [Session.buildRun, draft]
  cases hd : s.drafts.get? place with
  | none =>
    rw [perform_bind_of_error (perform_fetch_of_none hd)]
    exact h
  | some d =>
    rw [perform_bind_of_ok (perform_fetch_of_some hd), perform_bind_of_ok perform_get, perform_bind,
      perform_ofExcept]
    cases hrun : d.build s.caches.next with
    | error e => exact h
    | ok run =>
      obtain ⟨hgrammar, hvalid, rfl⟩ := Run.Draft.build_eq_ok_iff.mp hrun
      cases hcache : d.cache with
      | none =>
        -- the run gets a cache of its own, which is added before it
        refine h.addRun rfl rfl ?_ ?_ hgrammar hvalid
        · exact (Store.next_add s.caches {}).symm ▸ Nat.le_succ _
        · exact (Store.next_add s.caches {}).symm ▸ Nat.lt_succ_self _
      | some shared =>
        exact h.addRun rfl rfl (Nat.le_refl _) (h.draft_lt hd hcache) hgrammar hvalid

theorem Linked.changeDraft (h : Linked s) (c : Change) (place : Nat) :
    Linked (s.perform (c.act place)).2 := by
  have hchange (hc : ∀ shared, c = .cache shared → shared < s.caches.next) :
      Linked (s.perform (do
        Session.setDraft place (c.apply (← draft place))
        return Answer.done)).2 := by
    rw [draft]
    cases hd : s.drafts.get? place with
    | none =>
      rw [perform_bind_of_error (perform_fetch_of_none hd)]
      exact h
    | some d =>
      rw [perform_bind_of_ok (perform_fetch_of_some hd)]
      refine h.setDraft fun shared hshared => ?_
      rcases cache_apply hshared with rfl | hshared
      · exact hc shared rfl
      · exact h.draft_lt hd hshared
  cases c with
  | grammar g => exact hchange fun _ h => nomatch h
  | options o => exact hchange fun _ h => nomatch h
  | note key value => exact hchange fun _ h => nomatch h
  | cache shared =>
    show Linked (s.perform (fetch Session.caches shared >>= _)).2
    cases hc : s.caches.get? shared with
    | none =>
      rw [perform_bind_of_error (perform_fetch_of_none hc)]
      exact h
    | some c =>
      -- a draft is only given a cache that was found
      rw [perform_bind_of_ok (perform_fetch_of_some hc)]
      refine hchange fun shared' heq => ?_
      obtain rfl := Change.cache.inj heq
      exact Store.lt_next_of_get? hc

/-! ## Every call -/

theorem Linked.step (h : Linked s) (step : Step) : Linked (s.perform step.act).2 := by
  have hkept (hstep : ¬ step.Makes) : Linked (s.perform step.act).2 := h.of_ties (keeps_step step hstep s)
  cases step with
  | openCache =>
    refine ⟨fun hr => ?_, h.grammar_ne, h.valid, fun hd hplace => ?_⟩
    · exact Nat.lt_of_lt_of_le (h.cache_lt hr) ((Store.next_add s.caches {}).symm ▸ Nat.le_succ _)
    · exact Nat.lt_of_lt_of_le (h.draft_lt hd hplace)
        ((Store.next_add s.caches {}).symm ▸ Nat.le_succ _)
  | createRun grammar options metadata =>
    rw [Step.act, perform_map]
    exact h.createRun grammar options metadata
  | openDraft =>
    refine ⟨h.cache_lt, h.grammar_ne, h.valid, fun hd hplace => ?_⟩
    rcases Store.get?_add_eq_some hd with hbefore | ⟨-, rfl⟩
    · exact h.draft_lt hbefore hplace
    · cases hplace
  | changeDraft d c => exact h.changeDraft c d
  | buildRun d =>
    rw [Step.act, perform_map]
    exact h.buildRun d
  | _ => exact hkept id

theorem Linked.call (h : Linked s) (call : Call) : Linked (s.perform call.act).2 := by
  by_cases hsetsUp : call.SetsUp
  · exact h.of_ties (keeps_setsUp hsetsUp s)
  cases call with
  | step st =>
    have hsame : (s.perform (Call.step st).act).2 = (s.perform st.act).2 := by
      rw [Call.act, perform_bind]
      rcases s.perform st.act with ⟨e | x, s'⟩ <;> rfl
    rw [hsame]
    exact h.step st
  | _ => exact h.of_ties (keeps_act _ id hsetsUp s)

theorem linked_initial : Linked initial := by
  have hnone {α : Type} (place : Nat) (x : α) : ({} : Store α).get? place ≠ some x :=
    (Option.some_ne_none x).symm
  refine ⟨fun hr => ?_, fun hr => ?_, fun hr => ?_, fun hd => ?_⟩
  · exact absurd hr (hnone _ _)
  · exact absurd hr (hnone _ _)
  · exact absurd hr (hnone _ _)
  · exact absurd hd (hnone _ _)

/-- Every run can be made once more, and what runs and drafts refer to is there. -/
theorem linked_of_reachable (hs : Reachable s) : Linked s := by
  induction hs with
  | initial => exact linked_initial
  | call h call ih => exact ih.call call

end Emission.Session
