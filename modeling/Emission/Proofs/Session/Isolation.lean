import Emission.Proofs.Session.Alike
import Emission.Proofs.Session.Shipped

/-!
# Isolation of runs

Every group has a home, one key in one cache, and is answered only through runs that use this cache; and runs
share a cache only if a draft was given it. `Housed` and `Owned` say so of the objects and of the steps that
led to them; each step keeps them, by the cases of `Effect`. Main statement: `runs_isolated`.
-/

namespace Emission.Session

open Target (Identity)
open Template (Group)

variable {o o' : Objects} {step : Step} {answer : Except Fault Answer}

/-! ## What every step keeps -/

namespace Effect

/-- Objects are never removed, and a run stays as it was made. -/
theorem run_of_get? (h : Effect o step answer o') {r : Nat} {run : Run} (hr : o.runs.get? r = some run) :
    o'.runs.get? r = some run := by
  cases h with
  | ownCache => exact (Store.get?_add_of_lt _ _ (Store.lt_next_of_get? hr)).trans hr
  | sharedCache => exact (Store.get?_add_of_lt _ _ (Store.lt_next_of_get? hr)).trans hr
  | _ => exact hr

theorem caches_next_le (h : Effect o step answer o') : o.caches.next ≤ o'.caches.next := by
  cases h with
  | openCache => exact (Store.next_add _ _).symm ▸ Nat.le_succ _
  | ownCache => exact (Store.next_add _ _).symm ▸ Nat.le_succ _
  | removed => exact (Store.next_set _ _ _).symm ▸ Nat.le_refl _
  | found => exact (Store.next_set _ _ _).symm ▸ Nat.le_refl _
  | built => exact (Store.next_set _ _ _).symm ▸ Nat.le_refl _
  | _ => exact Nat.le_refl _

end Effect

/-! ## Caches that runs share -/

/-- Steps with their answers. -/
abbrev Log := List (Step × Except Fault Answer)

/-- A run was built from a draft that was given this cache. -/
def Shares (log : Log) (place run : Nat) : Prop :=
  ∃ d, (Step.changeDraft d (.cache place), .ok .done) ∈ log ∧ (Step.buildRun d, .ok (.place run)) ∈ log

theorem Shares.append {log : Log} {place run : Nat} (h : Shares log place run) (more : Log) :
    Shares (log ++ more) place run := by
  obtain ⟨d, hgiven, hbuilt⟩ := h
  exact ⟨d, List.mem_append_left more hgiven, List.mem_append_left more hbuilt⟩

/-- The caches of runs and drafts are there. A draft has a cache only if it was given it, and of two runs with
one cache one was built from a draft that was given it. -/
structure Owned (log : Log) (o : Objects) : Prop where
  runs : ∀ {r run}, o.runs.get? r = some run → run.cache < o.caches.next
  drafts : ∀ {d draft place}, o.drafts.get? d = some draft → draft.cache = some place →
    place < o.caches.next ∧ (Step.changeDraft d (.cache place), .ok .done) ∈ log
  sharing : ∀ {r q run run'}, o.runs.get? r = some run → o.runs.get? q = some run' → r ≠ q →
    run.cache = run'.cache → Shares log run.cache r ∨ Shares log run.cache q

namespace Owned

variable {log more : Log}

theorem drafts_append (h : Owned log o) (hdrafts : o'.drafts = o.drafts)
    (hcaches : o.caches.next ≤ o'.caches.next) {d place : Nat} {draft : Run.Draft}
    (hd : o'.drafts.get? d = some draft) (hplace : draft.cache = some place) :
    place < o'.caches.next ∧ (Step.changeDraft d (.cache place), .ok .done) ∈ log ++ more := by
  rw [hdrafts] at hd
  obtain ⟨hlt, hgiven⟩ := h.drafts hd hplace
  exact ⟨Nat.lt_of_lt_of_le hlt hcaches, List.mem_append_left more hgiven⟩

theorem sharing_append (h : Owned log o) {r q : Nat} {run run' : Run} (hr : o.runs.get? r = some run)
    (hq : o.runs.get? q = some run') (hne : r ≠ q) (hsame : run.cache = run'.cache) :
    Shares (log ++ more) run.cache r ∨ Shares (log ++ more) run.cache q :=
  (h.sharing hr hq hne hsame).imp (·.append more) (·.append more)

/-- What has the same runs and drafts, and no fewer caches, is as it was. -/
theorem of_eq (h : Owned log o) (hruns : o'.runs = o.runs) (hdrafts : o'.drafts = o.drafts)
    (hcaches : o.caches.next ≤ o'.caches.next) : Owned (log ++ more) o' where
  runs hr := by
    rw [hruns] at hr
    exact Nat.lt_of_lt_of_le (h.runs hr) hcaches
  drafts := h.drafts_append hdrafts hcaches
  sharing hr hq hne hsame := by
    rw [hruns] at hr hq
    exact h.sharing_append hr hq hne hsame

/-- A run is made: with a new cache, or with one that its draft was given. -/
theorem addRun (h : Owned log o) {r : Run} (hdrafts : o'.drafts = o.drafts)
    (hruns : o'.runs = (o.runs.add r).2) (hcaches : o.caches.next ≤ o'.caches.next)
    (hcache : r.cache < o'.caches.next)
    (hnew : r.cache = o.caches.next ∨ Shares (log ++ more) r.cache o.runs.next) :
    Owned (log ++ more) o' where
  runs hr := by
    rw [hruns] at hr
    rcases Store.get?_add_eq_some hr with hr | ⟨-, rfl⟩
    · exact Nat.lt_of_lt_of_le (h.runs hr) hcaches
    · exact hcache
  drafts := h.drafts_append hdrafts hcaches
  sharing {p q run run'} hp hq hne hsame := by
    rw [hruns] at hp hq
    -- an older run has an older cache, so a new cache is not shared
    have hnewer {p : Nat} {run : Run} (hp : o.runs.get? p = some run) (hsame : run.cache = r.cache) :
        Shares (log ++ more) r.cache o.runs.next := by
      rcases hnew with hnew | hnew
      · exact absurd (h.runs hp) (by omega)
      · exact hnew
    rcases Store.get?_add_eq_some hp with hp' | ⟨rfl, rfl⟩
    · rcases Store.get?_add_eq_some hq with hq' | ⟨rfl, rfl⟩
      · exact h.sharing_append hp' hq' hne hsame
      · rw [hsame]
        exact .inr (hnewer hp' hsame)
    · rcases Store.get?_add_eq_some hq with hq' | ⟨rfl, -⟩
      · exact .inl (hnewer hq' hsame.symm)
      · exact absurd rfl hne

theorem changeDraft (h : Owned log o) {place : Nat} {d : Run.Draft} {c : Change}
    (hd : o.drafts.get? place = some d) (hc : ∀ shared, c = .cache shared → shared < o.caches.next) :
    Owned (log ++ [(.changeDraft place c, .ok .done)])
      { o with drafts := o.drafts.set place (c.apply d) } where
  runs hr := h.runs hr
  drafts {d' draft shared} hd' hshared := by
    rcases Store.get?_set_eq_some hd' with ⟨rfl, rfl⟩ | ⟨-, hbefore⟩
    · rcases cache_apply hshared with rfl | hshared
      · exact ⟨hc shared rfl, List.mem_append_right log (List.mem_singleton.mpr rfl)⟩
      · exact h.drafts_append rfl (Nat.le_refl _) hd hshared
    · exact h.drafts_append rfl (Nat.le_refl _) hbefore hshared
  sharing := h.sharing_append

theorem openDraft (h : Owned log o) : Owned (log ++ more) { o with drafts := (o.drafts.add {}).2 } where
  runs hr := h.runs hr
  drafts hd hplace := by
    rcases Store.get?_add_eq_some hd with hbefore | ⟨-, rfl⟩
    · exact h.drafts_append rfl (Nat.le_refl _) hbefore hplace
    · cases hplace
  sharing := h.sharing_append

theorem effect (h : Owned log o) (heffect : Effect o step answer o') :
    Owned (log ++ [(step, answer)]) o' := by
  have hcaches : o.caches.next ≤ o'.caches.next := heffect.caches_next_le
  cases heffect with
  | openDraft => exact h.openDraft
  | changeDraft hd hc => exact h.changeDraft hd hc
  | ownCache hr =>
    refine h.addRun rfl rfl hcaches ?_ (.inl hr)
    rw [hr, Store.next_add]
    exact Nat.lt_succ_self _
  | @sharedCache place _ r hd hr =>
    obtain ⟨hlt, hgiven⟩ := h.drafts hd hr
    refine h.addRun rfl rfl hcaches hlt (.inr ⟨place, List.mem_append_left _ hgiven, ?_⟩)
    exact List.mem_append_right log (List.mem_singleton.mpr rfl)
  | _ => exact h.of_eq rfl rfl hcaches

end Owned

/-! ## Groups and their homes -/

/-- A cache keeps a group under a key. -/
def Holds (o : Objects) (place : Nat) (key : String) (g : Nat) : Prop :=
  ∃ c, o.caches.get? place = some c ∧ c.held? key = some g

theorem held?_congr {c c' : Template.Cache Nat} (h : c'.entries = c.entries) (key : String) :
    c'.held? key = c.held? key := by
  rw [Template.Cache.held?, Template.Cache.held?, h]

/-- An added cache holds nothing. -/
theorem holds_of_add {caches : Store (Template.Cache Nat)} (hcaches : o.caches = caches)
    (hcaches' : o'.caches = (caches.add {}).2) {place : Nat} {key : String} {g : Nat}
    (h : Holds o' place key g) : Holds o place key g := by
  obtain ⟨c, hc, hheld⟩ := h
  rw [hcaches'] at hc
  rcases Store.get?_add_eq_some hc with hc | ⟨-, rfl⟩
  · exact ⟨c, hcaches ▸ hc, hheld⟩
  · cases hheld

/-- What a cache holds that takes the place of another. -/
theorem holds_of_set {place : Nat} {c : Template.Cache Nat}
    (hcaches' : o'.caches = o.caches.set place c) {other : Nat} {key : String} {g : Nat}
    (h : Holds o' other key g) : other = place ∧ c.held? key = some g ∨ Holds o other key g := by
  obtain ⟨d, hd, hheld⟩ := h
  rw [hcaches'] at hd
  rcases Store.get?_set_eq_some hd with ⟨rfl, rfl⟩ | ⟨-, hd⟩
  · exact .inl ⟨rfl, hheld⟩
  · exact .inr ⟨d, hd, hheld⟩

/-- Every group has a home, which is one key in one cache. No cache keeps it anywhere else, and it is answered
only through runs that use the cache of its home. -/
structure Housed (homes : List (Nat × String)) (log : Log) (o : Objects) : Prop where
  length : homes.length = o.groups.next
  held : ∀ {place key g}, Holds o place key g → homes[g]? = some (place, key)
  answered : ∀ {r g}, g ∈ log.filterMap (groupThrough? r) →
    ∃ run key, o.runs.get? r = some run ∧ homes[g]? = some (run.cache, key)

theorem mem_groupsThrough_append {log : Log} {entry : Step × Except Fault Answer} {r g : Nat}
    (h : g ∈ (log ++ [entry]).filterMap (groupThrough? r)) :
    g ∈ log.filterMap (groupThrough? r) ∨ groupThrough? r entry = some g := by
  rw [List.filterMap_append, List.mem_append] at h
  rcases h with h | h
  · exact .inl h
  · obtain ⟨entry', hentry, hg⟩ := List.mem_filterMap.mp h
    obtain rfl := List.mem_singleton.mp hentry
    exact .inr hg

/-- A group that is answered is the one that the answer names, through the run of the step. -/
theorem groupThrough?_eq_some {r g : Nat} (h : groupThrough? r (step, answer) = some g) :
    answer = .ok (.group g) ∧ step.through? = some r := by
  unfold groupThrough? at h
  split at h
  · next heq =>
    obtain ⟨rfl, rfl⟩ := Prod.mk.inj heq
    split at h
    · exact ⟨by rw [Option.some.inj h], ‹_›⟩
    · cases h
  · cases h

/-- What is kept at home in the cache that a step reaches is at home in the cache of the run. -/
theorem Step.Reaches.home {homes : List (Nat × String)} {place r g : Nat} {key : String}
    (h : step.Reaches o place) (hr : step.through? = some r) (hg : homes[g]? = some (place, key)) :
    ∃ run key, o.runs.get? r = some run ∧ homes[g]? = some (run.cache, key) := by
  obtain ⟨run, hrun, rfl⟩ := h r hr
  exact ⟨run, key, hrun, hg⟩

namespace Housed

variable {homes : List (Nat × String)} {log : Log}

/-- Nothing is made or kept, and what is answered is at home. -/
theorem of_holds (h : Housed homes log o) (heffect : Effect o step answer o')
    (hgroups : o'.groups.next = o.groups.next)
    (hholds : ∀ {place key g}, Holds o' place key g → Holds o place key g)
    (hanswer : ∀ {r g}, answer = .ok (.group g) → step.through? = some r →
      ∃ run key, o.runs.get? r = some run ∧ homes[g]? = some (run.cache, key)) :
    Housed homes (log ++ [(step, answer)]) o' where
  length := h.length.trans hgroups.symm
  held hheld := h.held (hholds hheld)
  answered {r g} hg := by
    have hhome : ∃ run key, o.runs.get? r = some run ∧ homes[g]? = some (run.cache, key) := by
      rcases mem_groupsThrough_append hg with hg | hg
      · exact h.answered hg
      · obtain ⟨hok, hthrough⟩ := groupThrough?_eq_some hg
        exact hanswer hok hthrough
    obtain ⟨run, key, hrun, hhome⟩ := hhome
    exact ⟨run, key, heffect.run_of_get? hrun, hhome⟩

/-- A new group is at home where it is kept. -/
theorem built (h : Housed homes log o) {place : Nat} {i : Identity} {c c' : Template.Cache Nat}
    {made : Group} (hstep : step.Reaches o place) (hc : o.caches.get? place = some c)
    (hc' : c'.entries = c.entries) :
    Housed (homes ++ [(place, i.key)]) (log ++ [(step, .ok (.group o.groups.next))])
      { o with
        caches := o.caches.set place (c'.store i (some o.groups.next))
        groups := (o.groups.add made).2 } := by
  -- places that had a home keep it, and the new group gets the next
  have hold {g : Nat} {home : Nat × String} (hg : homes[g]? = some home) :
      (homes ++ [(place, i.key)])[g]? = some home := by
    rw [List.getElem?_append_left (List.getElem?_eq_some_iff.mp hg).1, hg]
  have hnew : (homes ++ [(place, i.key)])[o.groups.next]? = some (place, i.key) := by
    rw [← h.length, List.getElem?_concat_length]
  refine ⟨?_, ?_, ?_⟩
  · rw [List.length_append, h.length, Store.next_add, List.length_singleton]
  · intro other key g hholds
    rcases holds_of_set rfl hholds with ⟨rfl, hheld⟩ | hbefore
    · rw [Template.Cache.held?_store] at hheld
      split at hheld
      · next hkey =>
        obtain rfl := Option.some.inj hheld
        rw [hkey]
        exact hnew
      · rw [held?_congr hc'] at hheld
        exact hold (h.held ⟨c, hc, hheld⟩)
    · exact hold (h.held hbefore)
  · intro r' g hg
    rcases mem_groupsThrough_append hg with hg | hg
    · obtain ⟨run', key, hrun', hhome⟩ := h.answered hg
      exact ⟨run', key, hrun', hold hhome⟩
    · obtain ⟨hok, hthrough⟩ := groupThrough?_eq_some hg
      obtain rfl := Answer.group.inj (Except.ok.inj hok)
      exact hstep.home hthrough hnew

theorem effect (h : Housed homes log o) (heffect : Effect o step answer o') :
    ∃ homes', Housed homes' (log ++ [(step, answer)]) o' := by
  -- only an answer that is a group says where the group is at home
  have hquiet : ∀ {r g : Nat}, (∀ g, answer ≠ .ok (.group g)) → answer = .ok (.group g) →
      step.through? = some r → ∃ run key, o.runs.get? r = some run ∧ homes[g]? = some (run.cache, key) :=
    fun hno hanswer => absurd hanswer (hno _)
  have hthis := heffect
  cases heffect with
  | built hstep hc _ hc' _ => exact ⟨_, h.built hstep hc hc'⟩
  | @found _ place g i c c' hstep hc hget hc' =>
    refine ⟨homes, h.of_holds hthis rfl (fun hholds => ?_) fun hanswer hthrough => ?_⟩
    · rcases holds_of_set rfl hholds with ⟨rfl, hheld⟩ | hbefore
      · exact ⟨c, hc, (held?_congr hc' _).symm.trans hheld⟩
      · exact hbefore
    · obtain rfl := Answer.group.inj (Except.ok.inj hanswer)
      exact hstep.home hthrough (h.held ⟨c, hc, hget⟩)
  | removed hc hheld hanswer =>
    refine ⟨homes, h.of_holds hthis rfl (fun hholds => ?_) (hquiet hanswer)⟩
    rcases holds_of_set rfl hholds with ⟨rfl, hkept⟩ | hbefore
    · exact ⟨_, hc, hheld _ _ hkept⟩
    · exact hbefore
  | openCache =>
    exact ⟨homes, h.of_holds hthis rfl (holds_of_add rfl rfl) (hquiet fun g => nofun)⟩
  | ownCache hr =>
    exact ⟨homes, h.of_holds hthis rfl (holds_of_add rfl rfl) (hquiet fun g => nofun)⟩
  | registered hg =>
    exact ⟨homes, h.of_holds hthis (Store.next_set _ _ _) id (hquiet fun g => nofun)⟩
  | quiet hanswer => exact ⟨homes, h.of_holds hthis rfl id (hquiet hanswer)⟩
  | _ => exact ⟨homes, h.of_holds hthis rfl id (hquiet fun g => nofun)⟩

end Housed

/-! ## Whole histories -/

/-- A session in which no caches, runs, drafts and groups were made yet. -/
structure Bare (s : Session) : Prop where
  caches : s.caches = {}
  runs : s.runs = {}
  drafts : s.drafts = {}
  groups : s.groups = {}

theorem Bare.objects {s : Session} (hs : Bare s) : s.objects = { targets := s.targets } := by
  rw [Session.objects, hs.caches, hs.runs, hs.drafts, hs.groups]

theorem owned_nil (targets : Store Target) : Owned [] { targets } where
  runs h := nomatch h
  drafts h := nomatch h
  sharing h := nomatch h

theorem housed_nil (targets : Store Target) : Housed [] [] { targets } where
  length := rfl
  held h := nomatch h
  answered h := nomatch h

/-- What every step keeps, every history keeps. -/
theorem kept_of_history (Kept : Log → Objects → Prop)
    (hstep : ∀ {log o step answer o'}, Kept log o → Effect o step answer o' →
      Kept (log ++ [(step, answer)]) o')
    (log : Log) {s : Session} (h : Kept log s.objects) (steps : List Step) :
    Kept (log ++ s.history steps) (s.after steps).objects := by
  induction steps generalizing log s with
  | nil =>
    rw [history, List.append_nil]
    exact h
  | cons step rest ih =>
    rw [history, List.append_cons]
    exact ih _ (hstep h (effect_act s step))

variable {s : Session}

theorem owned_history (hs : Bare s) (steps : List Step) :
    Owned (s.history steps) (s.after steps).objects := by
  have hstart : Owned [] s.objects := by
    rw [hs.objects]
    exact owned_nil s.targets
  exact kept_of_history Owned Owned.effect [] hstart steps

theorem housed_history (hs : Bare s) (steps : List Step) :
    ∃ homes, Housed homes (s.history steps) (s.after steps).objects := by
  have hstep {log : Log} {o o' : Objects} {step : Step} {answer : Except Fault Answer}
      (h : ∃ homes, Housed homes log o) (heffect : Effect o step answer o') :
      ∃ homes, Housed homes (log ++ [(step, answer)]) o' := by
    obtain ⟨homes, h⟩ := h
    exact h.effect heffect
  have hstart : ∃ homes, Housed homes [] s.objects := by
    rw [hs.objects]
    exact ⟨[], housed_nil s.targets⟩
  exact kept_of_history (fun log o => ∃ homes, Housed homes log o) hstep [] hstart steps

/-! ## Isolation -/

/-- A step that gets its answer through a run, or from a group among `gs`. -/
def Step.concerns (run : Nat) (gs : List Nat) (step : Step) : Bool :=
  step.through? == some run || step.about gs

/-- A step about groups of one list is not about groups of another with none in common, and no step that goes
through a run is about a group. -/
theorem Step.not_about_of_concerns {run : Nat} {gs hs : List Nat} (hdisjoint : ∀ g ∈ gs, g ∉ hs)
    {step : Step} (h : step.concerns run hs = true) : step.about gs = false := by
  rw [Bool.eq_false_iff]
  intro habout
  obtain ⟨g, hg, hgroup⟩ := Step.about_iff.mp habout
  rw [Step.concerns, Bool.or_eq_true] at h
  rcases h with h | h
  · cases step with
    | register _ _ => cases h
    | use _ _ => cases h
    | _ => cases hgroup
  · obtain ⟨g', hg', hgroup'⟩ := Step.about_iff.mp h
    obtain rfl : g = g' := Option.some.inj (hgroup.symm.trans hgroup')
    exact hdisjoint g hg hg'

/-- Runs through which one group is answered use one cache. -/
theorem cache_eq_of_obtained (hs : Bare s) {steps : List Step} {r q g : Nat} (hr : g ∈ s.obtained steps r)
    (hq : g ∈ s.obtained steps q) :
    ∃ run run', (s.after steps).runs.get? r = some run ∧ (s.after steps).runs.get? q = some run' ∧
      run.cache = run'.cache := by
  obtain ⟨homes, hhomes⟩ := housed_history hs steps
  obtain ⟨run, key, hrun, hhome⟩ := hhomes.answered hr
  obtain ⟨run', key', hrun', hhome'⟩ := hhomes.answered hq
  have hsame := Option.some.inj (hhome.symm.trans hhome')
  exact ⟨run, run', hrun, hrun', congrArg Prod.fst hsame⟩

/-- Registrations with groups of one list change nothing of what is answered through a run or about groups of
a list with none in common. -/
theorem concerned_without {gs hs : List Nat} (hdisjoint : ∀ g ∈ gs, g ∉ hs) (s : Session) (steps : List Step)
    (q : Nat) :
    (s.history (steps.filter fun step => !step.registersAmong gs)).filter (fun e => e.1.concerns q hs) =
      (s.history steps).filter fun e => e.1.concerns q hs := by
  have halike : Alike gs s s := ⟨s.groups, rfl, groupsAlike_refl s.groups⟩
  -- whatever concerns the run is not about the groups of the first list
  have hconcerned (log : Log) : log.filter (fun e => e.1.concerns q hs) =
      (log.filter fun e => !e.1.about gs).filter fun e => e.1.concerns q hs := by
    rw [List.filter_filter]
    apply List.filter_congr
    intro e _
    cases hconcerns : e.1.concerns q hs with
    | false => rfl
    | true =>
      rw [Step.not_about_of_concerns hdisjoint hconcerns]
      rfl
  rw [hconcerned, history_without halike steps, ← hconcerned]

/-- Runs are isolated. A group is answered through two runs only if they use one cache, and then one of the
two was built from a draft that was given this cache. No group is kept in two caches or under two keys. And if
two runs use different caches, then nothing that is registered with the groups of the one makes a difference
to what is answered through the other. Whoever asks a cache directly has a group built that no one else has; a
group that is there already and handed over to a second cache is not covered. -/
theorem runs_isolated (hs : Bare s) (steps : List Step) :
    (∀ r q g, g ∈ s.obtained steps r → g ∈ s.obtained steps q →
      ∃ run run', (s.after steps).runs.get? r = some run ∧ (s.after steps).runs.get? q = some run' ∧
        run.cache = run'.cache ∧
        (r ≠ q → Shares (s.history steps) run.cache r ∨ Shares (s.history steps) run.cache q)) ∧
    (∀ p p' c c' i j g, (s.after steps).caches.get? p = some c →
      (s.after steps).caches.get? p' = some c' → c.get i = some g → c'.get j = some g →
      p = p' ∧ i.key = j.key) ∧
    ∀ r q run run', (s.after steps).runs.get? r = some run → (s.after steps).runs.get? q = some run' →
      run.cache ≠ run'.cache →
      (s.history (steps.filter fun step => !step.registersAmong (s.obtained steps r))).filter
          (fun e => e.1.concerns q (s.obtained steps q)) =
        (s.history steps).filter fun e => e.1.concerns q (s.obtained steps q) := by
  refine ⟨?_, ?_, ?_⟩
  · intro r q g hr hq
    obtain ⟨run, run', hrun, hrun', hsame⟩ := cache_eq_of_obtained hs hr hq
    exact ⟨run, run', hrun, hrun', hsame, fun hne => (owned_history hs steps).sharing hrun hrun' hne hsame⟩
  · intro p p' c c' i j g hc hc' hget hget'
    obtain ⟨homes, hhomes⟩ := housed_history hs steps
    have hhome := hhomes.held ⟨c, hc, hget⟩
    have hhome' := hhomes.held ⟨c', hc', hget'⟩
    exact Prod.mk.inj (Option.some.inj (hhome.symm.trans hhome'))
  · intro r q run run' hrun hrun' hne
    have hdisjoint : ∀ g ∈ s.obtained steps r, g ∉ s.obtained steps q := by
      intro g hg hg'
      obtain ⟨run₁, run₁', hrun₁, hrun₁', hsame⟩ := cache_eq_of_obtained hs hg hg'
      obtain rfl : run = run₁ := Option.some.inj (hrun.symm.trans hrun₁)
      obtain rfl : run' = run₁' := Option.some.inj (hrun'.symm.trans hrun₁')
      exact hne hsame
    exact concerned_without hdisjoint s steps q

/-- Two runs load the PHP target, and one of them registers another renderer with its group. -/
theorem runs_isolated_php :
    let steps : List Step :=
      [.createRun "Expr" none [], .createRun "Expr" none [], .load 0 0, .load 0 1,
        .register 0 (.renderer Target.Php.escapeMode Text.upper),
        .use 1 (.format (.text "a") Target.Php.escapeMode)]
    Bare silentInitial ∧ silentInitial.obtained steps 0 = [0] ∧ silentInitial.obtained steps 1 = [1] ∧
      (silentInitial.history (steps.filter fun step => !step.registersAmong [0])).filter
          (fun e => e.1.concerns 1 [1]) =
        (silentInitial.history steps).filter fun e => e.1.concerns 1 [1] := by
  intro steps
  let php : Group := loadedPhp {} ⟨true, true, true⟩
  let changed : Group := php.register (.renderer Target.Php.escapeMode Text.upper)
  let text : String := php.surroundings.renderers.formatText "a" Target.Php.escapeMode
  have h₁ : silentInitial.perform (Step.createRun "Expr" none []).act =
      (.ok (.place 0), withRuns [0] [{}] []) := rfl
  have h₂ : (withRuns [0] [{}] []).perform (Step.createRun "Expr" none []).act =
      (.ok (.place 1), withRuns [0, 1] [{}, {}] []) := rfl
  have h₃ : (withRuns [0, 1] [{}, {}] []).perform (Step.load 0 0).act =
      (.ok (.group 0), withRuns [0, 1] [phpCache 0, {}] [php]) := by
    rw [Step.act, perform_map, perform_loadGroup_php (silent_withRuns _ _ _) rfl rfl rfl rfl rfl rfl rfl]
    rfl
  have h₄ : (withRuns [0, 1] [phpCache 0, {}] [php]).perform (Step.load 0 1).act =
      (.ok (.group 1), withRuns [0, 1] [phpCache 0, phpCache 1] [php, php]) := by
    rw [Step.act, perform_map, perform_loadGroup_php (silent_withRuns _ _ _) rfl rfl rfl rfl rfl rfl rfl]
    rfl
  have h₅ : (withRuns [0, 1] [phpCache 0, phpCache 1] [php, php]).perform
        (Step.register 0 (.renderer Target.Php.escapeMode Text.upper)).act =
      (.ok .done, withRuns [0, 1] [phpCache 0, phpCache 1] [changed, php]) := rfl
  have h₆ : (withRuns [0, 1] [phpCache 0, phpCache 1] [changed, php]).perform
        (Step.use 1 (.format (.text "a") Target.Php.escapeMode)).act =
      (.ok (.text text), withRuns [0, 1] [phpCache 0, phpCache 1] [changed, php]) := rfl
  have hhistory : silentInitial.history steps =
      steps.zip [.ok (.place 0), .ok (.place 1), .ok (.group 0), .ok (.group 1), .ok .done,
        .ok (.text text)] := by
    simp only [steps, history, h₁, h₂, h₃, h₄, h₅, h₆]
    rfl
  have hruns : (silentInitial.after steps).runs = (withRuns [0, 1] [] []).runs := by
    simp only [steps, after, h₁, h₂, h₃, h₄, h₅, h₆]
    rfl
  have hfirst : silentInitial.obtained steps 0 = [0] := by
    rw [obtained, hhistory]
    rfl
  have hsecond : silentInitial.obtained steps 1 = [1] := by
    rw [obtained, hhistory]
    rfl
  have hbare : Bare silentInitial := ⟨rfl, rfl, rfl, rfl⟩
  refine ⟨hbare, hfirst, hsecond, ?_⟩
  obtain ⟨-, -, hisolated⟩ := runs_isolated hbare steps
  rw [← hfirst, ← hsecond]
  refine hisolated 0 1 ⟨"Expr", {}, [], 0⟩ ⟨"Expr", {}, [], 1⟩ ?_ ?_ (by decide)
  · rw [hruns]
    rfl
  · rw [hruns]
    rfl

end Emission.Session
