import Emission.Proofs.Run
import Emission.Proofs.Session.Step
import Emission.Proofs.Store
import Emission.Proofs.Template.Cache

/-!
# What steps do to the objects

The objects of a session are its targets, caches, runs, drafts and groups; files and journal are not among
them. Main statement: `effect_act`, whatever a step does to the objects and answers is one of the cases of
`Effect`. What holds of all sessions follows from it by going through the cases.
-/

namespace Emission

open Template (Group GroupOptions)

/-- The objects of a session. -/
structure Objects where
  targets : Store Target := {}
  caches : Store (Template.Cache Nat) := {}
  runs : Store Run := {}
  drafts : Store Run.Draft := {}
  groups : Store Group := {}

namespace Session

open Target (Identity)

variable {α β : Type} {s s' : Session}

def objects (s : Session) : Objects := ⟨s.targets, s.caches, s.runs, s.drafts, s.groups⟩

/-- The session with other objects. -/
def withObjects (s : Session) (o : Objects) : Session :=
  { s with
    targets := o.targets, caches := o.caches, runs := o.runs, drafts := o.drafts, groups := o.groups }

/-! ## Actions aside from the objects -/

/-- An action that neither sees nor changes the objects, whatever it does to files and journal. -/
def Aside (a : Action α) : Prop :=
  ∀ (s : Session) (o : Objects),
    (s.withObjects o).perform a = ((s.perform a).1, (s.perform a).2.withObjects o)

theorem Aside.objects {a : Action α} (ha : Aside a) {r : Except Fault α} (h : s.perform a = (r, s')) :
    s'.objects = s.objects := by
  have hsame : s.perform a = ((s.perform a).1, (s.perform a).2.withObjects s.objects) := ha s s.objects
  rw [h] at hsame
  have hs' : s' = s'.withObjects s.objects := (Prod.mk.inj hsame).2
  rw [hs']
  rfl

theorem aside_pure (x : α) : Aside (pure x) := fun _ _ => rfl

theorem aside_ofExcept (r : Except Fault α) : Aside (MonadExcept.ofExcept r) := by
  intro s o
  rw [perform_ofExcept, perform_ofExcept]

theorem aside_bind {a : Action α} {k : α → Action β} (ha : Aside a) (hk : ∀ x, Aside (k x)) :
    Aside (a >>= k) := by
  intro s o
  rw [perform_bind, perform_bind, ha s o]
  rcases s.perform a with ⟨e | x, s'⟩
  · rfl
  · exact hk x s' o

theorem aside_get {k : Session → Action α} (hk : ∀ s o, k (s.withObjects o) = k s)
    (ha : ∀ s, Aside (k s)) : Aside (get >>= k) := by
  intro s o
  rw [perform_bind_of_ok perform_get, perform_bind_of_ok perform_get, hk]
  exact ha s s o

theorem aside_record (component : Component) (severity : Severity) (message : String) :
    Aside (record component severity message) := fun _ _ => rfl

theorem aside_report (component : Component) (e : Journal.Event) : Aside (report component e) :=
  fun _ _ => rfl

theorem exists_perform_report (s : Session) (component : Component) (e : Journal.Event) :
    ∃ s', s.perform (report component e) = (.ok (), s') ∧ s'.objects = s.objects :=
  ⟨_, rfl, rfl⟩

theorem aside_openGroup (name : String) (dir : Option String) (o : Template.GroupOptions) :
    Aside (openGroup name dir o) :=
  aside_get (fun _ _ => rfl) fun _ => aside_ofExcept _

theorem aside_createGroup (name : String) (dir : Option String) (options : Option Options) :
    Aside (createGroup name dir options) := by
  have hrest (dir : Option String) (o : Template.GroupOptions) : Aside (do
      let g ← openGroup name dir o
      record .templates .debug
        ("Parsed " ++ toString g.size ++ " templates from " ++ g.dir.text)
      return g) :=
    aside_bind (aside_openGroup name dir o) fun g =>
      aside_bind (aside_record _ _ _) fun _ => aside_pure g
  cases dir with
  | some dir => exact aside_bind (aside_pure (some dir)) fun dir => hrest dir _
  | none =>
    cases options with
    | none => exact aside_bind (aside_pure none) fun dir => hrest dir _
    | some o => exact aside_bind (aside_ofExcept (optionDir name o)) fun dir => hrest dir _

theorem aside_putFile (name : String) (c : Files.Content) : Aside (putFile name c) := by
  intro s o
  rw [putFile, perform_bind_of_ok perform_get, perform_bind_of_ok perform_get, perform_bind,
    perform_bind, perform_ofExcept, perform_ofExcept, show (s.withObjects o).files = s.files from rfl]
  cases s.files.place (.ofText name) c <;> rfl

theorem aside_makeDirectory (name : String) : Aside (makeDirectory name) := fun _ _ => rfl

theorem aside_removeFile (name : String) : Aside (removeFile name) := by
  intro s o
  rw [removeFile, perform_bind_of_ok perform_get, perform_bind_of_ok perform_get, perform_bind,
    perform_bind, perform_ofExcept, perform_ofExcept, show (s.withObjects o).files = s.files from rfl]
  cases s.files.remove (.ofText name) <;> rfl

/-! ## Making groups -/

/-- The options of a run as options of a group. -/
def groupOptions (o : Options) : GroupOptions :=
  ⟨o.trimBlocks, o.lstripBlocks, o.keepTrailingNewline, o.debugMode⟩

theorem ofDirectory_of_createGroup {name : String} {o : Options} {g : Group}
    (h : s.perform (createGroup name none (some o)) = (.ok g, s')) :
    ∃ dir, Group.ofDirectory s.files name dir (groupOptions o) = .ok g := by
  simp only [createGroup, openGroup, perform_bind_eq_ok_iff, perform_ofExcept_eq_ok_iff, perform_get,
    perform_pure, Prod.mk.injEq, Except.ok.injEq] at h
  obtain ⟨dir, s₁, ⟨-, rfl⟩, g', s₂, ⟨s₃, s₄, ⟨rfl, rfl⟩, hg, rfl⟩, _, s₅, -, rfl, rfl⟩ := h
  exact ⟨_, hg⟩

/-- A group as it is made for a run: that of a directory, with the renderers of the target and the escape mode
of the run. -/
def MadeFrom (t : Target) (o : Options) (g : Group) : Prop :=
  ∃ fs dir plain full, Group.ofDirectory fs t.name dir (groupOptions o) = .ok plain ∧
    plain.registerAll t.strategy.renderers = .ok full ∧ g = full.setGlobal "escape_mode" o.escapeMode

/-- An action that fails and changes no object, or makes one group. -/
def MakesGroup (make : Action Nat) (P : Group → Prop) : Prop :=
  ∀ s : Session,
    (∃ e s', s.perform make = (.error e, s') ∧ s'.objects = s.objects) ∨
    ∃ g s', s.perform make = (.ok s.groups.next, s') ∧ P g ∧
      s'.objects = { s.objects with groups := (s.groups.add g).2 }

theorem perform_addGroup (h : s'.objects = s.objects) (g : Group) :
    s'.perform (addGroup g) = (.ok s.groups.next, { s' with groups := (s.groups.add g).2 }) := by
  have hgroups : s'.groups = s.groups := congrArg Objects.groups h
  rw [← hgroups]
  rfl

theorem objects_addGroup (h : s'.objects = s.objects) (g : Group) :
    ({ s' with groups := (s.groups.add g).2 } : Session).objects =
      { s.objects with groups := (s.groups.add g).2 } := by
  rw [← h]
  rfl

theorem makesGroup_plainGroup (name : String) (dir : Option String) (options : Option Options) :
    MakesGroup (plainGroup name dir options) fun _ => True := by
  intro s
  rw [plainGroup, perform_bind]
  rcases hcreate : s.perform (createGroup name dir options) with ⟨e | g, s'⟩
  · exact .inl ⟨e, s', rfl, (aside_createGroup name dir options).objects hcreate⟩
  · have hobjects := (aside_createGroup name dir options).objects hcreate
    exact .inr ⟨g, _, perform_addGroup hobjects g, trivial, objects_addGroup hobjects g⟩

theorem makesGroup_buildGroup (t : Target) (o : Options) :
    MakesGroup (buildGroup t o) (MadeFrom t o) := by
  intro s
  rw [buildGroup, perform_bind]
  rcases hcreate : s.perform (createGroup t.name none (some o)) with ⟨e | plain, s'⟩
  · exact .inl ⟨e, s', rfl, (aside_createGroup t.name none (some o)).objects hcreate⟩
  · have hobjects := (aside_createGroup t.name none (some o)).objects hcreate
    obtain ⟨dir, hplain⟩ := ofDirectory_of_createGroup hcreate
    simp only [perform_bind, perform_ofExcept]
    cases hfull : plain.registerAll t.strategy.renderers with
    | error e => exact .inl ⟨e, s', rfl, hobjects⟩
    | ok full =>
      exact .inr ⟨_, _, perform_addGroup hobjects _, ⟨s.files, dir, plain, full, hplain, hfull, rfl⟩,
        objects_addGroup hobjects _⟩

/-! ## What a step does to the objects -/

/-- If a step gets its group through a run, then the run uses the cache at this place. -/
def Step.Reaches (o : Objects) (step : Step) (place : Nat) : Prop :=
  ∀ r, step.through? = some r → ∃ run, o.runs.get? r = some run ∧ run.cache = place

/-- What a step can do to the objects, and what it answers. -/
inductive Effect (o : Objects) : Step → Except Fault Answer → Objects → Prop
  /-- Nothing is changed, and no group is answered. -/
  | quiet {step answer} (h : ∀ g, answer ≠ .ok (.group g)) : Effect o step answer o
  | addTarget (t : Target) :
    Effect o (.addTarget t) (.ok (.place o.targets.next)) { o with targets := (o.targets.add t).2 }
  | openCache :
    Effect o .openCache (.ok (.place o.caches.next)) { o with caches := (o.caches.add {}).2 }
  | openDraft :
    Effect o .openDraft (.ok (.place o.drafts.next)) { o with drafts := (o.drafts.add {}).2 }
  | changeDraft {place : Nat} {d : Run.Draft} {c : Change} (hd : o.drafts.get? place = some d)
      (hc : ∀ shared, c = .cache shared → shared < o.caches.next) :
    Effect o (.changeDraft place c) (.ok .done) { o with drafts := o.drafts.set place (c.apply d) }
  /-- A run is made with a cache of its own. -/
  | ownCache {step} {r : Run} (hr : r.cache = o.caches.next) :
    Effect o step (.ok (.place o.runs.next))
      { o with caches := (o.caches.add {}).2, runs := (o.runs.add r).2 }
  /-- A run is made with the cache that its draft was given. -/
  | sharedCache {place : Nat} {d : Run.Draft} {r : Run} (hd : o.drafts.get? place = some d)
      (hr : d.cache = some r.cache) :
    Effect o (.buildRun place) (.ok (.place o.runs.next)) { o with runs := (o.runs.add r).2 }
  /-- Entries of a cache are removed, or none are, and no group is answered. -/
  | removed {step answer} {place : Nat} {c c' : Template.Cache Nat} (hc : o.caches.get? place = some c)
      (hheld : ∀ key g, c'.held? key = some g → c.held? key = some g)
      (h : ∀ g, answer ≠ .ok (.group g)) :
    Effect o step answer { o with caches := o.caches.set place c' }
  /-- A group is found in a cache. -/
  | found {step} {place g : Nat} {i : Identity} {c c' : Template.Cache Nat}
      (hstep : step.Reaches o place) (hc : o.caches.get? place = some c) (hget : c.get i = some g)
      (hc' : c'.entries = c.entries) :
    Effect o step (.ok (.group g)) { o with caches := o.caches.set place c' }
  /-- A group is made and kept in a cache, where there was none. -/
  | built {step} {place : Nat} {i : Identity} {c c' : Template.Cache Nat} {made : Group}
      (hstep : step.Reaches o place) (hc : o.caches.get? place = some c) (hget : c.get i = none)
      (hc' : c'.entries = c.entries)
      (hmade : ∀ a r, step = .load a r → ∃ t run, o.targets.get? a = some t ∧
        o.runs.get? r = some run ∧ MadeFrom t run.options made) :
    Effect o step (.ok (.group o.groups.next))
      { o with
        caches := o.caches.set place (c'.store i (some o.groups.next))
        groups := (o.groups.add made).2 }
  /-- Something is registered with a group. -/
  | registered {place : Nat} {g : Group} {r : Group.Registration} (hg : o.groups.get? place = some g) :
    Effect o (.register place r) (.ok .done) { o with groups := o.groups.set place (g.register r) }

/-- What a step came to is what it can do and answer. -/
def HasEffect (s : Session) (step : Step) (outcome : Except Fault Answer × Session) : Prop :=
  Effect s.objects step outcome.1 outcome.2.objects

/-! ## Asking for a group -/

section Asking

variable {place : Nat} {i : Identity} {c : Template.Cache Nat}

/-- Keeps what making a group came to. -/
def keepGroup (place : Nat) (i : Identity) (built : Except Fault Nat) : Action Nat := do
  let (answer, c) := (← cache place).settle i (built.map some)
  setCache place c
  let g ← MonadExcept.ofExcept answer
  report .cache (.groupLoaded (.text i.name) (.int (← group g).size))
  return g

theorem perform_keepGroup_error (hc : s.caches.get? place = some c) (e : Fault) :
    s.perform (keepGroup place i (.error e)) = (.error e, s) := by
  have hsettle : c.settle i (Except.map some (.error e)) = (.error e, c) := rfl
  rw [keepGroup, cache, perform_bind_of_ok (perform_fetch_of_some hc)]
  simp only [hsettle]
  rw [setCache, perform_bind_of_ok (perform_modify _ _), perform_bind_of_error (perform_ofExcept _ _),
    Store.set_of_get? hc]

theorem perform_keepGroup_ok (hc : s.caches.get? place = some c) {g : Nat} {made : Group}
    (hg : s.groups.get? g = some made) :
    s.perform (keepGroup place i (.ok g)) =
      ({ s with caches := s.caches.set place (c.store i (some g)) } : Session).perform (do
        report .cache (.groupLoaded (.text i.name) (.int made.size))
        return g) := by
  have hsettle : c.settle i (Except.map some (.ok g)) = (.ok g, c.store i (some g)) := rfl
  have hgroup : ({ s with caches := s.caches.set place (c.store i (some g)) } : Session).perform (group g) =
      (.ok made, { s with caches := s.caches.set place (c.store i (some g)) }) :=
    perform_fetch_of_some hg
  rw [keepGroup, cache, perform_bind_of_ok (perform_fetch_of_some hc)]
  simp only [hsettle]
  rw [setCache, perform_bind_of_ok (perform_modify _ _), perform_bind_of_ok (perform_ofExcept _ _),
    perform_bind_of_ok hgroup]

theorem perform_obtainGroup_of_some (hc : s.caches.get? place = some c) {g : Nat}
    (hget : c.get i = some g) (make : Action Nat) :
    s.perform (obtainGroup place i make) =
      ({ s with caches := s.caches.set place { c with hits := c.hits + 1 } } : Session).perform (do
        report .cache (.cacheHit (.text i.name))
        return g) := by
  have hrequest : c.request i = (some g, { c with hits := c.hits + 1 }) := by
    simp only [Template.Cache.request, hget]
  rw [obtainGroup, cache, perform_bind_of_ok (perform_fetch_of_some hc)]
  simp only [hrequest]
  rw [setCache, perform_bind_of_ok (perform_modify _ _)]

theorem perform_obtainGroup_of_none (hc : s.caches.get? place = some c) (hget : c.get i = none)
    (make : Action Nat) :
    s.perform (obtainGroup place i make) =
      ({ s with caches := s.caches.set place { c with misses := c.misses + 1 } } : Session).perform (do
        report .cache (.cacheMiss (.text i.name))
        let built ← attempt make
        keepGroup place i built) := by
  have hrequest : c.request i = (none, { c with misses := c.misses + 1 }) := by
    simp only [Template.Cache.request, hget]
  rw [obtainGroup, cache, perform_bind_of_ok (perform_fetch_of_some hc)]
  simp only [hrequest]
  rw [setCache, perform_bind_of_ok (perform_modify _ _)]
  rfl

/-- Asking for a group finds it, or fails and counts a miss at most, or makes it. -/
theorem hasEffect_obtainGroup {step : Step} (hstep : step.Reaches s.objects place) {make : Action Nat}
    {P : Group → Prop} (hmake : MakesGroup make P)
    (hmade : ∀ made, P made → ∀ a r, step = .load a r → ∃ t run, s.targets.get? a = some t ∧
      s.runs.get? r = some run ∧ MadeFrom t run.options made) :
    HasEffect s step (s.perform (Answer.group <$> obtainGroup place i make)) := by
  rw [perform_map]
  cases hc : s.caches.get? place with
  | none =>
    rw [obtainGroup, cache, perform_bind_of_error (perform_fetch_of_none hc)]
    exact .quiet fun g => nofun
  | some c =>
    cases hget : c.get i with
    | some g =>
      rw [perform_obtainGroup_of_some hc hget]
      exact .found hstep hc hget rfl
    | none =>
      -- a miss is counted and reported before anything is made, so making meets the counted cache
      let c' : Template.Cache Nat := { c with misses := c.misses + 1 }
      obtain ⟨s₁, hreport, hs₁⟩ := exists_perform_report
        { s with caches := s.caches.set place c' } .cache (.cacheMiss (.text i.name))
      have hgroups : s₁.groups = s.groups := congrArg Objects.groups hs₁
      have hc₁ : s₁.objects.caches.get? place = some c' := by
        rw [hs₁]
        exact Store.get?_set_self hc c'
      rw [perform_obtainGroup_of_none hc hget, perform_bind_of_ok hreport,
        perform_bind_of_ok (perform_attempt make s₁)]
      rcases hmake s₁ with ⟨e, s₂, hmake, hs₂⟩ | ⟨made, s₂, hmake, hP, hs₂⟩
      · have hc₂ : s₂.objects.caches.get? place = some c' := by rw [hs₂, hc₁]
        rw [hmake, perform_keepGroup_error hc₂, HasEffect, hs₂, hs₁]
        exact .removed hc (fun _ _ hheld => hheld) fun g => nofun
      · have hc₂ : s₂.objects.caches.get? place = some c' := by rw [hs₂, hc₁]
        have hg : s₂.objects.groups.get? s₁.groups.next = some made := by
          rw [hs₂]
          exact Store.get?_add_self s₁.groups made
        -- making added the group and changed nothing else that is held
        have hobjects : { s₂.objects with
              caches := s₂.objects.caches.set place (c'.store i (some s₁.groups.next)) } =
            { s.objects with
              caches := s.caches.set place (c'.store i (some s.groups.next))
              groups := (s.groups.add made).2 } := by
          rw [hs₂, hs₁, hgroups]
          simp only [Session.objects, Store.set_set]
        rw [hmake, perform_keepGroup_ok hc₂ hg]
        show Effect s.objects step (.ok (.group s₁.groups.next)) { s₂.objects with
          caches := s₂.objects.caches.set place (c'.store i (some s₁.groups.next)) }
        rw [hobjects, hgroups]
        exact .built hstep hc hget rfl (hmade made hP)

end Asking

/-! ## Every step -/

theorem hasEffect_error (s : Session) (step : Step) (e : Fault) : HasEffect s step (.error e, s) :=
  .quiet fun _ h => nomatch h

/-- What happens behind a look for an object that is not there is a failure. -/
theorem hasEffect_fetch_bind {store : Session → Store α} {place : Nat} {step : Step}
    {k : α → Action Answer}
    (h : ∀ x, (store s).get? place = some x → HasEffect s step (s.perform (k x))) :
    HasEffect s step (s.perform (fetch store place >>= k)) := by
  cases hplace : (store s).get? place with
  | none =>
    rw [perform_bind_of_error (perform_fetch_of_none hplace)]
    exact hasEffect_error s step _
  | some x =>
    rw [perform_bind_of_ok (perform_fetch_of_some hplace)]
    exact h x hplace

theorem hasEffect_ofExcept_bind {r : Except Fault α} {step : Step} {k : α → Action Answer}
    (h : ∀ x, r = .ok x → HasEffect s step (s.perform (k x))) :
    HasEffect s step (s.perform (MonadExcept.ofExcept r >>= k)) := by
  cases r with
  | error e => exact hasEffect_error s step e
  | ok x => exact h x rfl

theorem hasEffect_of_aside {a : Action Unit} (ha : Aside a) (s : Session) (step : Step) :
    HasEffect s step (s.perform (a >>= fun _ => pure Answer.done)) := by
  rw [perform_bind]
  rcases h : s.perform a with ⟨e | x, s'⟩
  · rw [HasEffect, show (Except.error e, s').2.objects = s.objects from ha.objects h]
    exact .quiet fun g h => nomatch h
  · rw [HasEffect, show (s'.perform (pure Answer.done)).2.objects = s.objects from ha.objects h]
    exact .quiet fun g h => nomatch h

theorem reaches_of_run {step : Step} {r : Nat} {run : Run} (hrun : s.runs.get? r = some run)
    (hstep : step.through? = some r) : step.Reaches s.objects run.cache := by
  intro r' hr'
  obtain rfl : r = r' := Option.some.inj (hstep.symm.trans hr')
  exact ⟨run, hrun, rfl⟩

/-- What happens behind finding a named cache is a failure, or it happens with the place of the cache. -/
theorem hasEffect_find_bind {name : CacheName} {step : Step} (hstep : step.through? = name.run?)
    {k : Nat → Action Answer}
    (h : ∀ place, step.Reaches s.objects place → HasEffect s step (s.perform (k place))) :
    HasEffect s step (s.perform (name.find >>= k)) := by
  cases name with
  | place p =>
    refine h p fun r hr => ?_
    cases hstep.symm.trans hr
  | ofRun r =>
    rw [CacheName.find, bind_map_left]
    exact hasEffect_fetch_bind fun run hrun => h run.cache (reaches_of_run hrun hstep)

theorem hasEffect_load (a r : Nat) (s : Session) :
    HasEffect s (.load a r) (s.perform (Step.load a r).act) := by
  have hact : (Step.load a r).act = (do
      let t ← target a
      let run ← run r
      Answer.group <$> obtainGroup run.cache t.identity (buildGroup t run.options)) := by
    rw [Step.act, loadGroup_eq]
    simp only [map_bind]
  rw [hact]
  refine hasEffect_fetch_bind fun t ht => hasEffect_fetch_bind fun run hrun => ?_
  refine hasEffect_obtainGroup (reaches_of_run hrun rfl) (makesGroup_buildGroup t run.options) ?_
  intro made hmade a' r' hload
  obtain ⟨rfl, rfl⟩ := Step.load.inj hload
  exact ⟨t, run, ht, hrun, hmade⟩

theorem hasEffect_inquire (name : CacheName) (i : Inquiry) (s : Session) :
    HasEffect s (.inquire name i) (s.perform (i.act name)) := by
  refine hasEffect_find_bind rfl fun place hplace => hasEffect_fetch_bind fun c hc => ?_
  cases i with
  | get i =>
    cases hget : c.get i with
    | none =>
      simp only [hget]
      exact .quiet fun g h => nomatch h
    | some g =>
      simp only [hget]
      have hsame : s.objects = { s.objects with caches := s.caches.set place c } := by
        rw [Store.set_of_get? hc]
        rfl
      have hfound : Effect s.objects (.inquire name (.get i)) (.ok (.group g))
          { s.objects with caches := s.caches.set place c } := .found hplace hc hget rfl
      rw [← hsame] at hfound
      exact hfound
  | contains i => exact .quiet fun g h => nomatch h
  | invalidate i =>
    refine .removed hc (fun key g hheld => ?_) fun g h => nomatch h
    rw [Template.Cache.held?_invalidate] at hheld
    split at hheld
    · cases hheld
    · exact hheld
  | clear => exact .removed hc (fun key g hheld => nomatch hheld) fun g h => nomatch h
  | statistics => exact .quiet fun g h => nomatch h

theorem hasEffect_changeDraft (place : Nat) (c : Change) (s : Session) :
    HasEffect s (.changeDraft place c) (s.perform (c.act place)) := by
  have hchange (hc : ∀ shared, c = .cache shared → shared < s.caches.next) :
      HasEffect s (.changeDraft place c) (s.perform (do
        setDraft place (c.apply (← draft place))
        return Answer.done)) :=
    hasEffect_fetch_bind fun d hd => .changeDraft hd hc
  cases c with
  | grammar g => exact hchange fun _ h => nomatch h
  | options o => exact hchange fun _ h => nomatch h
  | note key value => exact hchange fun _ h => nomatch h
  | cache shared =>
    refine hasEffect_fetch_bind fun c hc => hchange ?_
    intro shared' h
    obtain rfl := Change.cache.inj h
    exact Store.lt_next_of_get? hc

theorem hasEffect_createRun (grammar : String) (options : Option Options)
    (metadata : List (Value × Value)) (s : Session) :
    HasEffect s (.createRun grammar options metadata)
      (s.perform (Step.createRun grammar options metadata).act) := by
  rw [Step.act, Session.createRun]
  simp only [map_bind]
  rw [perform_bind_of_ok perform_get]
  refine hasEffect_ofExcept_bind fun r hr => .ownCache ?_
  exact congrArg Run.cache (Run.make_eq_ok_iff.mp hr).2.2

theorem hasEffect_buildRun (place : Nat) (s : Session) :
    HasEffect s (.buildRun place) (s.perform (Step.buildRun place).act) := by
  rw [Step.act, Session.buildRun]
  simp only [map_bind]
  refine hasEffect_fetch_bind fun d hd => ?_
  rw [perform_bind_of_ok perform_get]
  refine hasEffect_ofExcept_bind fun r hr => ?_
  have hbuilt : r.cache = d.cache.getD s.caches.next :=
    congrArg Run.cache (Run.Draft.build_eq_ok_iff.mp hr).2.2
  cases hcache : d.cache with
  | none =>
    rw [hcache] at hbuilt
    exact .ownCache hbuilt
  | some shared =>
    rw [hcache] at hbuilt
    exact .sharedCache hd (hcache.trans (congrArg some hbuilt.symm))

/-- Registering fails and changes nothing, or changes the group. -/
theorem perform_register (s : Session) (place : Nat) (r : Group.Registration) :
    (∃ e, s.perform (Step.register place r).act = (.error e, s)) ∨
      ∃ g, s.groups.get? place = some g ∧ s.perform (Step.register place r).act =
        (.ok .done, { s with groups := s.groups.set place (g.register r) }) := by
  cases hg : s.groups.get? place with
  | none =>
    have hgroup : s.perform (group place) = (.error (.noObject place), s) := perform_fetch_of_none hg
    refine .inl ⟨.noObject place, ?_⟩
    cases r with
    | renderer mode f => rw [Step.act, registerRenderer, bind_assoc, perform_bind_of_error hgroup]
    | constant name v => rw [Step.act, setGlobal, bind_assoc, perform_bind_of_error hgroup]
  | some g =>
    have hgroup : s.perform (group place) = (.ok g, s) := perform_fetch_of_some hg
    cases r with
    | renderer mode f =>
      rw [Step.act, registerRenderer, bind_assoc, perform_bind_of_ok hgroup, bind_assoc, perform_bind,
        perform_ofExcept]
      cases hregister : g.registerRenderer mode f with
      | error e => exact .inl ⟨e, rfl⟩
      | ok g' =>
        refine .inr ⟨g, rfl, ?_⟩
        rw [Group.register, hregister]
        rfl
    | constant name v =>
      rw [Step.act, setGlobal, bind_assoc, perform_bind_of_ok hgroup]
      exact .inr ⟨g, rfl, rfl⟩

theorem hasEffect_register (place : Nat) (r : Group.Registration) (s : Session) :
    HasEffect s (.register place r) (s.perform (Step.register place r).act) := by
  rcases perform_register s place r with ⟨e, hfailed⟩ | ⟨g, hg, hdone⟩
  · rw [hfailed]
    exact hasEffect_error s _ e
  · rw [hdone]
    exact .registered hg

theorem answer_ne_group (g : Group) (u : Use) (place : Nat) : u.answer g ≠ .ok (.group place) := by
  intro h
  cases u with
  | look => cases h
  | format v mode =>
    rw [Use.answer] at h
    cases hformat : g.format v mode <;> rw [hformat] at h <;> cases h
  | render name values =>
    rw [Use.answer] at h
    cases hrender : g.render name values <;> rw [hrender] at h <;> cases h
  | renderText source values =>
    rw [Use.answer] at h
    cases hrender : g.renderText source values <;> rw [hrender] at h <;> cases h

theorem hasEffect_use (place : Nat) (u : Use) (s : Session) :
    HasEffect s (.use place u) (s.perform (Step.use place u).act) := by
  refine hasEffect_fetch_bind fun g hg => ?_
  rw [perform_ofExcept]
  exact .quiet (answer_ne_group g u)

/-- Whatever a step does to the objects and answers is one of the cases of `Effect`. -/
theorem effect_act (s : Session) (step : Step) : HasEffect s step (s.perform step.act) := by
  cases step with
  | addTarget t => exact .addTarget t
  | openCache => exact .openCache
  | createRun grammar options metadata => exact hasEffect_createRun grammar options metadata s
  | openDraft => exact .openDraft
  | changeDraft d c => exact hasEffect_changeDraft d c s
  | buildRun d => exact hasEffect_buildRun d s
  | load a r => exact hasEffect_load a r s
  | obtain name i dir options =>
    exact hasEffect_find_bind rfl fun place hplace =>
      hasEffect_obtainGroup hplace (makesGroup_plainGroup i.name dir options) fun _ _ _ _ h => nomatch h
  | inquire name i => exact hasEffect_inquire name i s
  | register g r => exact hasEffect_register g r s
  | use g u => exact hasEffect_use g u s
  | putFile name c => exact hasEffect_of_aside (aside_putFile name c) s _
  | makeDirectory name => exact hasEffect_of_aside (aside_makeDirectory name) s _
  | removeFile name => exact hasEffect_of_aside (aside_removeFile name) s _

end Session

end Emission
