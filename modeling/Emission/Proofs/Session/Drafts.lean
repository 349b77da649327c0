import Emission.Proofs.Session.Isolation
import Emission.Proofs.Session.Reachable
import Mathlib.Data.List.Induction

/-!
# Runs made from drafts

A draft is filled in piece by piece and can be built any number of times, while all kinds of other steps are made.
Whatever a build comes to follows from what the draft was told until then (`changesOf`). Main statement:
`buildRun_eq_createRun`, it comes to the same as making a run at once with the last name, the last options and the
notes that the draft was told; the run uses the cache that the draft was last given, or a new one that no other
run comes to use (`Alone`); and no later step changes the run.
-/

namespace Emission.Session

variable {s s' : Session} {o o' : Objects}

/-! ## What a draft was told -/

namespace Change

def grammar? : Change → Option (Option String)
  | grammar name => some name
  | _ => none

def options? : Change → Option (Option Options)
  | options o => some o
  | _ => none

/-- A note under a text. -/
def note? : Change → Option (String × Value)
  | note (.text key) value => some (key, value)
  | _ => none

def cache? : Change → Option Nat
  | cache place => some place
  | _ => none

/-- A note is to stand under a text. -/
def Named (c : Change) : Prop := ∀ key value, c = note key value → ∃ name, key = .text name

end Change

/-- What a draft was last told of one kind. -/
def lastOf {α : Type} (kind? : Change → Option α) (told : List Change) : Option α :=
  (told.filterMap kind?).getLast?

/-- The name of the grammar that a draft was last told. -/
def lastGrammar (told : List Change) : Option String := (lastOf Change.grammar? told).join

def lastOptions (told : List Change) : Option Options := (lastOf Change.options? told).join

/-- The cache that a draft was last given. -/
def lastCache (told : List Change) : Option Nat := lastOf Change.cache? told

/-- The value that was last noted under a key which is there. -/
def lastValue (notes : List (String × Value)) (key : String) : Value := (notes.reverse.lookup key).getD .none

/-- Notes as a run keeps them: each key once, where it was noted first, with the value that was noted last. -/
def keptNotes (notes : List (String × Value)) : List (Value × Value) :=
  (notes.map (·.1)).eraseDups.map fun key => (.text key, lastValue notes key)

/-- The notes that a draft was told. -/
def toldNotes (told : List Change) : List (Value × Value) := keptNotes (told.filterMap Change.note?)

/-! ## Notes one after the other -/

theorem nodup_eraseDups (keys : List String) : keys.eraseDups.Nodup := by
  cases keys with
  | nil => exact List.nodup_nil
  | cons key rest =>
    rw [List.eraseDups_cons, List.nodup_cons, List.mem_eraseDups]
    exact ⟨by simp, nodup_eraseDups (rest.filter fun k => !k == key)⟩
termination_by keys.length
decreasing_by exact Nat.lt_succ_of_le (List.length_filter_le _ rest)

/-- Setting a key among keys that differ gives it the value, where it is or behind the others. -/
theorem put_map_text {keys : List String} (hkeys : keys.Nodup) (f : String → Value) (key : String)
    (value : Value) :
    Value.put (.text key) value (keys.map fun k => (.text k, f k)) =
      (if key ∈ keys then keys else keys ++ [key]).map fun k =>
        (.text k, if k = key then value else f k) := by
  induction keys with
  | nil => simp [Value.put]
  | cons k rest ih =>
    obtain ⟨hk, hrest⟩ := List.nodup_cons.mp hkeys
    rw [List.map_cons, Value.put]
    by_cases hkey : k = key
    · subst hkey
      have hkept : ∀ k' ∈ rest, k' ≠ k := fun k' hmem heq => hk (heq ▸ hmem)
      have hsame : Value.same (.text k) (.text k) = true := beq_iff_eq.mpr rfl
      rw [if_pos hsame, if_pos List.mem_cons_self, List.map_cons, if_pos rfl]
      refine congrArg _ (List.map_congr_left fun k' hmem => ?_)
      rw [if_neg (hkept k' hmem)]
    · have hdiffers : Value.same (.text k) (.text key) ≠ true := by
        intro hsame
        exact hkey (Option.some.inj (beq_iff_eq.mp hsame)).symm
      rw [if_neg hdiffers, ih hrest]
      by_cases hmem : key ∈ rest
      · rw [if_pos hmem, if_pos (List.mem_cons_of_mem k hmem), List.map_cons, if_neg hkey]
      · have hnone : key ∉ k :: rest := by
          rw [List.mem_cons, not_or]
          exact ⟨Ne.symm hkey, hmem⟩
        rw [if_neg hmem, if_neg hnone, List.cons_append, List.map_cons, if_neg hkey]

/-- One more note sets its key. -/
theorem keptNotes_append (notes : List (String × Value)) (key : String) (value : Value) :
    keptNotes (notes ++ [(key, value)]) = Value.put (.text key) value (keptNotes notes) := by
  have hkeys : ((notes ++ [(key, value)]).map (·.1)).eraseDups =
      if key ∈ (notes.map (·.1)).eraseDups then (notes.map (·.1)).eraseDups
      else (notes.map (·.1)).eraseDups ++ [key] := by
    rw [List.map_append, List.eraseDups_append]
    by_cases hmem : key ∈ notes.map (·.1)
    · rw [if_pos (List.mem_eraseDups.mpr hmem)]
      simp [List.removeAll, hmem]
    · rw [if_neg fun hno => hmem (List.mem_eraseDups.mp hno)]
      simp [List.removeAll, hmem, List.eraseDups_cons]
  have hvalue (k : String) :
      lastValue (notes ++ [(key, value)]) k = if k = key then value else lastValue notes k := by
    rw [lastValue, List.reverse_append, List.reverse_singleton, List.singleton_append, List.lookup_cons]
    by_cases hk : k = key
    · simp [hk]
    · simp [beq_eq_false_iff_ne.mpr hk, hk, lastValue]
  rw [keptNotes, keptNotes, put_map_text (nodup_eraseDups _), hkeys]
  exact List.map_congr_left fun k _ => by rw [hvalue]

theorem lastOf_append {α : Type} (kind? : Change → Option α) (told : List Change) (c : Change) :
    lastOf kind? (told ++ [c]) = (kind? c).or (lastOf kind? told) := by
  rw [lastOf, lastOf, List.filterMap_append, List.getLast?_append, List.filterMap_cons]
  cases kind? c <;> rfl

/-- Only a note changes the notes. -/
theorem toldNotes_append_of_none {c : Change} (h : c.note? = none) (told : List Change) :
    toldNotes (told ++ [c]) = toldNotes told := by
  rw [toldNotes, toldNotes, List.filterMap_append, List.filterMap_cons_none h, List.filterMap_nil,
    List.append_nil]

theorem toldNotes_append_note (told : List Change) (key : String) (value : Value) :
    toldNotes (told ++ [.note (.text key) value]) = Value.put (.text key) value (toldNotes told) := by
  rw [toldNotes, toldNotes, List.filterMap_append]
  exact keptNotes_append _ key value

/-- A draft holds what it was told. -/
theorem foldl_apply {told : List Change} (hnamed : ∀ c ∈ told, c.Named) :
    told.foldl Change.apply {} =
      ⟨lastGrammar told, lastOptions told, toldNotes told, lastCache told⟩ := by
  induction told using List.reverseRecOn with
  | nil => rfl
  | append_singleton told c ih =>
    have hbefore : ∀ c ∈ told, c.Named := fun c hc => hnamed c (List.mem_append_left _ hc)
    rw [List.foldl_append, ih hbefore]
    simp only [lastGrammar, lastOptions, lastCache, lastOf_append]
    cases c with
    | grammar name =>
      rw [toldNotes_append_of_none rfl]
      rfl
    | options o =>
      rw [toldNotes_append_of_none rfl]
      rfl
    | cache place =>
      rw [toldNotes_append_of_none rfl]
      rfl
    | note key value =>
      obtain ⟨name, rfl⟩ := hnamed _ (List.mem_append_right told List.mem_cons_self) key value rfl
      rw [toldNotes_append_note]
      rfl

/-! ## Drafts in a history -/

/-- The changes that were made to a draft, the first one first. -/
def changesOf (d : Nat) (log : Log) : List Change :=
  log.filterMap fun
    | (.changeDraft place c, .ok .done) => if place = d then some c else none
    | _ => none

/-- A change of a draft fails and changes nothing, or changes the draft. -/
theorem perform_change (s : Session) (place : Nat) (c : Change) :
    (∃ e, s.perform (c.act place) = (.error e, s)) ∨
      ∃ d, s.drafts.get? place = some d ∧
        s.perform (c.act place) = (.ok .done, { s with drafts := s.drafts.set place (c.apply d) }) := by
  have hset : (∃ e, s.perform (do
        Session.setDraft place (c.apply (← draft place))
        return Answer.done) = (.error e, s)) ∨
      ∃ d, s.drafts.get? place = some d ∧ s.perform (do
        Session.setDraft place (c.apply (← draft place))
        return Answer.done) = (.ok .done, { s with drafts := s.drafts.set place (c.apply d) }) := by
    cases hd : s.drafts.get? place with
    | none => exact .inl ⟨_, by rw [draft, perform_bind_of_error (perform_fetch_of_none hd)]⟩
    | some d =>
      refine .inr ⟨d, rfl, ?_⟩
      rw [draft, perform_bind_of_ok (perform_fetch_of_some hd)]
      rfl
  cases c with
  | grammar name => exact hset
  | options o => exact hset
  | note key value => exact hset
  | cache shared =>
    -- the cache has to be there
    rw [Change.act]
    cases hc : s.caches.get? shared with
    | none => exact .inl ⟨_, perform_bind_of_error (perform_fetch_of_none hc) _⟩
    | some found =>
      rw [cache, perform_bind_of_ok (perform_fetch_of_some hc)]
      exact hset

/-- A step that changes no draft leaves each as it is. -/
theorem Effect.draft_of_get? {step : Step} {answer : Except Fault Answer} (h : Effect o step answer o')
    (hstep : ∀ place c, step ≠ .changeDraft place c) {d : Nat} {draft : Run.Draft}
    (hd : o.drafts.get? d = some draft) : o'.drafts.get? d = some draft := by
  cases h with
  | openDraft => exact (Store.get?_add_of_lt _ _ (Store.lt_next_of_get? hd)).trans hd
  | changeDraft => exact absurd rfl (hstep _ _)
  | _ => exact hd

theorem draft_act {d : Nat} {held : Run.Draft} (hd : s.drafts.get? d = some held) (step : Step) :
    (s.perform step.act).2.drafts.get? d =
      some ((changesOf d [(step, (s.perform step.act).1)]).foldl Change.apply held) := by
  by_cases hstep : ∃ place c, step = .changeDraft place c
  · obtain ⟨place, c, rfl⟩ := hstep
    rw [Step.act]
    rcases perform_change s place c with ⟨e, hfail⟩ | ⟨old, hold, hdone⟩
    · rw [hfail]
      exact hd
    · rw [hdone]
      by_cases hplace : place = d
      · subst hplace
        obtain rfl : old = held := Option.some.inj (hold.symm.trans hd)
        simp only [changesOf, List.filterMap_cons, if_true]
        exact Store.get?_set_self hd _
      · simp only [changesOf, List.filterMap_cons, if_neg hplace]
        exact (Store.get?_set_of_ne _ _ hplace).trans hd
  · have hother : ∀ place c, step ≠ .changeDraft place c := fun place c h => hstep ⟨place, c, h⟩
    have hnone : changesOf d [(step, (s.perform step.act).1)] = [] := by
      cases step with
      | changeDraft place c => exact absurd rfl (hother place c)
      | _ => rfl
    rw [hnone]
    exact (effect_act s step).draft_of_get? hother hd

/-- A draft is what the changes that were made to it make of it, whatever else happens. -/
theorem draft_after {d : Nat} {held : Run.Draft} (hd : s.drafts.get? d = some held) (steps : List Step) :
    (s.after steps).drafts.get? d = some ((changesOf d (s.history steps)).foldl Change.apply held) := by
  induction steps generalizing s held with
  | nil => exact hd
  | cons step rest ih =>
    have hlog : changesOf d (s.history (step :: rest)) =
        changesOf d [(step, (s.perform step.act).1)] ++
          changesOf d ((s.perform step.act).2.history rest) := by
      rw [changesOf, changesOf, changesOf, ← List.filterMap_append]
      rfl
    rw [hlog, List.foldl_append]
    exact ih (draft_act hd step)

/-- A run stays as it was made. -/
theorem run_after {r : Nat} {run : Run} (hr : s.runs.get? r = some run) (steps : List Step) :
    (s.after steps).runs.get? r = some run := by
  induction steps generalizing s with
  | nil => exact hr
  | cons step rest ih => exact ih ((effect_act s step).run_of_get? hr)

/-! ## Building -/

theorem perform_buildRun {place : Nat} {d : Run.Draft} (hd : s.drafts.get? place = some d) :
    s.perform (buildRun place) =
      match d.build s.caches.next with
      | .error e => (.error e, s)
      | .ok run => (.ok s.runs.next,
          { s with
            caches := if d.cache.isNone then (s.caches.add {}).2 else s.caches
            runs := (s.runs.add run).2 }) := by
  rw [buildRun, draft, perform_bind_of_ok (perform_fetch_of_some hd), perform_bind_of_ok perform_get,
    perform_bind, perform_ofExcept]
  cases d.build s.caches.next with
  | error e => rfl
  | ok run =>
    cases d.cache with
    | none => rfl
    | some shared => rfl

/-- A step that opens, changes or builds a draft. -/
def Step.Drafts : Step → Prop
  | openDraft | changeDraft .. | buildRun _ => True
  | _ => False

/-- Opening, changing and building drafts leaves every cache as it is. -/
theorem cache_act_of_drafts {step : Step} (hstep : step.Drafts) {place : Nat}
    {c : Template.Cache Nat} (hc : s.caches.get? place = some c) :
    (s.perform step.act).2.caches.get? place = some c := by
  cases step with
  | openDraft => exact hc
  | changeDraft d change =>
    rw [Step.act]
    rcases perform_change s d change with ⟨e, hfail⟩ | ⟨old, -, hdone⟩
    · rw [hfail]
      exact hc
    · rw [hdone]
      exact hc
  | buildRun d =>
    rw [Step.act, perform_map]
    cases hd : s.drafts.get? d with
    | none =>
      rw [Session.buildRun, draft, perform_bind_of_error (perform_fetch_of_none hd)]
      exact hc
    | some held =>
      rw [perform_buildRun hd]
      split
      · exact hc
      · dsimp only
        split
        · exact (Store.get?_add_of_lt _ _ (Store.lt_next_of_get? hc)).trans hc
        · exact hc
  | _ => exact hstep.elim

theorem cache_after_of_drafts {steps : List Step} (hsteps : ∀ step ∈ steps, step.Drafts) {place : Nat}
    {c : Template.Cache Nat} (hc : s.caches.get? place = some c) :
    (s.after steps).caches.get? place = some c := by
  induction steps generalizing s with
  | nil => exact hc
  | cons step rest ih =>
    obtain ⟨hstep, hrest⟩ := List.forall_mem_cons.mp hsteps
    exact ih hrest (cache_act_of_drafts hstep hc)

/-! ## A cache for one run alone -/

/-- No run but this one uses the cache, and no draft was given it. -/
structure Alone (place r : Nat) (o : Objects) : Prop where
  lt : place < o.caches.next
  runs : ∀ {q run}, o.runs.get? q = some run → run.cache = place → q = r
  drafts : ∀ {d draft}, o.drafts.get? d = some draft → draft.cache ≠ some place

/-- Some draft was given the cache. -/
def Given (place : Nat) (log : Log) : Prop := ∃ d, (Step.changeDraft d (.cache place), .ok .done) ∈ log

namespace Alone

variable {place r : Nat}

/-- A run that is added uses another cache. -/
theorem addRun (h : Alone place r o) {run : Run} (hruns : o'.runs = (o.runs.add run).2)
    (hdrafts : o'.drafts = o.drafts) (hcaches : o.caches.next ≤ o'.caches.next)
    (hother : run.cache ≠ place) : Alone place r o' where
  lt := Nat.lt_of_lt_of_le h.lt hcaches
  runs hq hplace := by
    rw [hruns] at hq
    rcases Store.get?_add_eq_some hq with hq | ⟨-, rfl⟩
    · exact h.runs hq hplace
    · exact absurd hplace hother
  drafts hd := h.drafts (hdrafts ▸ hd)

/-- What has the same runs and drafts, and no fewer caches, is as it was. -/
theorem of_eq (h : Alone place r o) (hruns : o'.runs = o.runs) (hdrafts : o'.drafts = o.drafts)
    (hcaches : o.caches.next ≤ o'.caches.next) : Alone place r o' where
  lt := Nat.lt_of_lt_of_le h.lt hcaches
  runs hq := h.runs (hruns ▸ hq)
  drafts hd := h.drafts (hdrafts ▸ hd)

/-- Only a step that gives a draft the cache can make another run use it. -/
theorem effect (h : Alone place r o) {step : Step} {answer : Except Fault Answer}
    (heffect : Effect o step answer o') (hgiven : ¬Given place [(step, answer)]) : Alone place r o' := by
  have hcaches := heffect.caches_next_le
  cases heffect with
  | openDraft =>
    refine ⟨h.lt, h.runs, fun hd => ?_⟩
    rcases Store.get?_add_eq_some hd with hd | ⟨-, rfl⟩
    · exact h.drafts hd
    · nofun
  | changeDraft hd =>
    refine ⟨h.lt, h.runs, fun hchanged hplace => ?_⟩
    rcases Store.get?_set_eq_some hchanged with ⟨rfl, rfl⟩ | ⟨-, hbefore⟩
    · rcases cache_apply hplace with rfl | hold
      · exact hgiven ⟨_, List.mem_singleton.mpr rfl⟩
      · exact h.drafts hd hold
    · exact h.drafts hbefore hplace
  | ownCache hr => exact h.addRun rfl rfl hcaches (by rw [hr]; exact Nat.ne_of_gt h.lt)
  | sharedCache hd hr =>
    exact h.addRun rfl rfl hcaches fun hplace => h.drafts hd (hr.trans (congrArg some hplace))
  | _ => exact h.of_eq rfl rfl hcaches

theorem after (h : Alone place r s.objects) {steps : List Step}
    (hgiven : ¬Given place (s.history steps)) : Alone place r (s.after steps).objects := by
  induction steps generalizing s with
  | nil => exact h
  | cons step rest ih =>
    have hfirst : ¬Given place [(step, (s.perform step.act).1)] := by
      rintro ⟨d, hmem⟩
      exact hgiven ⟨d, List.mem_cons.mpr (.inl (List.mem_singleton.mp hmem))⟩
    have hrest : ¬Given place ((s.perform step.act).2.history rest) := by
      rintro ⟨d, hmem⟩
      exact hgiven ⟨d, List.mem_cons_of_mem _ hmem⟩
    exact ih (h.effect (effect_act s step) hfirst) hrest

/-- A run that was made with a new cache is the only one that uses it. -/
theorem ofNew (h : Linked s) (run : Run) (hrun : run.cache = s.caches.next) :
    Alone run.cache s.runs.next
      { s.objects with caches := (s.caches.add {}).2, runs := (s.runs.add run).2 } where
  lt := by
    rw [hrun, Store.next_add]
    exact Nat.lt_succ_self _
  runs {q other} hq hplace := by
    rcases Store.get?_add_eq_some hq with hq | ⟨rfl, -⟩
    · -- an older run has an older cache
      have hlt : other.cache < s.caches.next := h.cache_lt hq
      omega
    · rfl
  drafts {d draft} hd hplace := by
    have hlt : run.cache < s.caches.next := h.draft_lt hd hplace
    omega

end Alone

/-! ## Builds and what they come to -/

theorem Linked.after (h : Linked s) (steps : List Step) : Linked (s.after steps) := by
  induction steps generalizing s with
  | nil => exact h
  | cons step rest ih => exact ih (h.step step)

theorem perform_createRun_eq (s : Session) (grammar : String) (options : Option Options)
    (metadata : List (Value × Value)) :
    s.perform (createRun grammar options metadata) =
      match Run.make grammar options metadata s.caches.next with
      | .error e => (.error e, s)
      | .ok run => (.ok s.runs.next,
          { s with caches := (s.caches.add {}).2, runs := (s.runs.add run).2 }) := by
  cases hmake : Run.make grammar options metadata s.caches.next with
  | error e =>
    rw [createRun, perform_bind_of_ok perform_get, hmake, perform_bind_of_error (perform_ofExcept _ s)]
  | ok run => exact perform_createRun hmake

/-- A draft that was opened and told what to hold. -/
theorem draft_told (s : Session) (steps : List Step) {told : List Change}
    (htold : changesOf s.drafts.next (s.history (.openDraft :: steps)) = told) (hnamed : ∀ c ∈ told, c.Named) :
    (s.after (.openDraft :: steps)).drafts.get? s.drafts.next =
      some ⟨lastGrammar told, lastOptions told, toldNotes told, lastCache told⟩ := by
  have hopened : (s.perform Step.openDraft.act).2.drafts.get? s.drafts.next = some {} :=
    Store.get?_add_self s.drafts {}
  rw [← foldl_apply hnamed, ← htold]
  exact draft_after hopened steps

/-- A run that is built is there, with the cache that the draft shares, or else with one that is new, empty and the
run's alone. -/
theorem perform_buildRun_ok (h : Linked s) {place : Nat} {d : Run.Draft} (hd : s.drafts.get? place = some d)
    {run : Run} (hbuild : d.build s.caches.next = .ok run) :
    let built := s.perform (buildRun place)
    built.1 = .ok s.runs.next ∧ built.2.runs.get? s.runs.next = some run ∧
      (∃ c, built.2.caches.get? run.cache = some c) ∧
      (d.cache = none → s.caches.get? run.cache = none ∧ built.2.caches.get? run.cache = some {} ∧
        Alone run.cache s.runs.next built.2.objects) := by
  intro built
  have hbuilt : built = _ := perform_buildRun hd
  rw [hbuild] at hbuilt
  have hrun : built.2.runs.get? s.runs.next = some run := by
    rw [hbuilt]
    exact Store.get?_add_self s.runs run
  have hlinked : Linked built.2 := h.buildRun place
  refine ⟨by rw [hbuilt], hrun, Store.exists_get? (hlinked.cache_lt hrun), fun hnone => ?_⟩
  have hnew : run.cache = s.caches.next := by
    obtain ⟨-, -, rfl⟩ := Run.Draft.build_eq_ok_iff.mp hbuild
    exact congrArg (Option.getD · _) hnone
  have hstate : built.2 = { s with caches := (s.caches.add {}).2, runs := (s.runs.add run).2 } := by
    rw [hbuilt, hnone]
    rfl
  refine ⟨Store.get?_eq_none_iff.mpr (Nat.le_of_eq hnew.symm), ?_, ?_⟩
  · rw [hstate, hnew]
    exact Store.get?_add_self s.caches {}
  · rw [hstate]
    exact Alone.ofNew h run hnew

/-- Whatever happens between, a build of a draft comes to the same as making a run at once with the last name and
the last options that the draft was told, and with the notes that it was told: it is refused if that is, only a
missing name is put in other words, and changes nothing then; or else both runs have the same grammar, options
and notes. The run that was built uses the cache that the draft was last given. If it was given none, then the
cache is new and empty, and no other run or draft has it, until a draft is given it. Whatever steps are made
later, the run stays as it is, and what is done with drafts leaves its cache as it is. -/
theorem buildRun_eq_createRun (hs : Reachable s) (steps : List Step)
    (hnamed : ∀ c ∈ changesOf s.drafts.next (s.history (.openDraft :: steps)), c.Named) :
    let d := s.drafts.next
    let told := changesOf d (s.history (.openDraft :: steps))
    let now := s.after (.openDraft :: steps)
    let built := now.perform (buildRun d)
    let made := now.perform
      (createRun ((lastGrammar told).getD "") (lastOptions told) (toldNotes told))
    built.1 = made.1.mapError Run.Draft.refusal ∧
    (∀ e, built.1 = .error e → e ∈ Run.Draft.refusals ∧ built.2 = now) ∧
    ∀ r, built.1 = .ok r → ∃ run,
      built.2.runs.get? r = some run ∧
      made.2.runs.get? r = some { run with cache := now.caches.next } ∧
      run.cache = (lastCache told).getD now.caches.next ∧
      (lastCache told = none → now.caches.get? run.cache = none ∧
        built.2.caches.get? run.cache = some {} ∧ Alone run.cache r built.2.objects) ∧
      ∀ later : List Step,
        (built.2.after later).runs.get? r = some run ∧
        ((∀ step ∈ later, step.Drafts) →
          (built.2.after later).caches.get? run.cache = built.2.caches.get? run.cache) ∧
        (lastCache told = none → ¬Given run.cache (built.2.history later) →
          Alone run.cache r (built.2.after later).objects) := by
  intro d told now built made
  have hdraft := draft_told s steps rfl hnamed
  have hlinked : Linked now := (linked_of_reachable hs).after (.openDraft :: steps)
  have hmade : made = _ := perform_createRun_eq now _ _ _
  have hbuilt : built = _ := perform_buildRun hdraft
  have hbuild := Run.Draft.build_eq_make
    ⟨lastGrammar told, lastOptions told, toldNotes told, lastCache told⟩ now.caches.next
  rw [Run.make_eq_map _ _ _ now.caches.next] at hbuild
  -- both ways make the run from the same parts, and refuse it for the same reasons
  cases hmake : Run.make ((lastGrammar told).getD "") (lastOptions told) (toldNotes told)
      now.caches.next with
  | error e =>
    rw [hmake] at hmade hbuild
    rw [hbuild] at hbuilt
    rw [hbuilt, hmade]
    refine ⟨rfl, fun e' he' => ⟨?_, rfl⟩, fun r hr => nomatch hr⟩
    obtain rfl := Except.error.inj he'
    exact Run.Draft.mem_refusals_of_build hbuild
  | ok plain =>
    rw [hmake] at hmade hbuild
    -- the run that is made at once owns the next cache, as the built one does that was told of none
    have hplain : plain.cache = now.caches.next := by
      obtain ⟨-, -, rfl⟩ := Run.make_eq_ok_iff.mp hmake
      rfl
    obtain ⟨hanswer, hrun, ⟨c, hc⟩, hown⟩ := perform_buildRun_ok hlinked hdraft hbuild
    refine ⟨by rw [hmade]; exact hanswer, fun e he => ?_, fun r hr => ?_⟩
    · rw [hanswer] at he
      cases he
    · obtain rfl : now.runs.next = r := Except.ok.inj (hanswer.symm.trans hr)
      refine ⟨_, hrun, ?_, rfl, hown, fun later => ⟨run_after hrun later, fun hdrafts => ?_, ?_⟩⟩
      · rw [hmade, ← hplain]
        exact Store.get?_add_self now.runs plain
      · rw [hc]
        exact cache_after_of_drafts hdrafts hc
      · exact fun hnone hgiven => (hown hnone).2.2.after hgiven

theorem buildRun_eq_createRun_expr :
    let steps : List Step := [.changeDraft 0 (.grammar (some "Expr")), .changeDraft 0 (.note (.text "b") (.int 1)),
      .changeDraft 0 (.note (.text "a") (.int 2)), .buildRun 0, .changeDraft 0 (.note (.text "b") (.int 3))]
    let now := initial.after (.openDraft :: steps)
    let built := now.perform (buildRun 0)
    Reachable initial ∧ (∀ c ∈ changesOf 0 (initial.history (.openDraft :: steps)), c.Named) ∧
      ∃ run, built.1 = .ok 1 ∧ built.2.runs.get? 1 = some run ∧
        run = ⟨"Expr", {}, [(.text "b", .int 3), (.text "a", .int 2)], 1⟩ ∧
        ∀ later, (built.2.after later).runs.get? 1 = some run := by
  intro steps now built
  have htold : changesOf 0 (initial.history (.openDraft :: steps)) =
      [.grammar (some "Expr"), .note (.text "b") (.int 1), .note (.text "a") (.int 2),
        .note (.text "b") (.int 3)] := rfl
  have hnamed : ∀ c ∈ changesOf 0 (initial.history (.openDraft :: steps)), c.Named := by
    rw [htold]
    simp [Change.Named]
  refine ⟨.initial, hnamed, ?_⟩
  obtain ⟨-, -, hok⟩ := buildRun_eq_createRun .initial steps hnamed
  have hone : built.1 = .ok 1 := rfl
  obtain ⟨run, hrun, -, -, -, hlater⟩ := hok 1 hone
  exact ⟨run, hone, hrun, Option.some.inj hrun.symm, fun later => (hlater later).1⟩

end Emission.Session
