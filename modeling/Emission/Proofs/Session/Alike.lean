import Emission.Proofs.Session.Effect

/-!
# Sessions that differ in registrations

Two sessions are alike up to some groups if they differ at most in what is registered with these groups. Rules
say which actions answer the same in alike sessions and leave them alike; by them every step does so that is
not about one of the groups. Main statement: `history_without`, leaving out registrations with some groups
changes no answer but those of steps about these groups.
-/

namespace Emission.Session

open Target (Identity)
open Template (Group)

variable {α β : Type} {gs : List Nat}

/-- Groups that are the same up to what is registered with those among `gs`. -/
structure GroupsAlike (gs : List Nat) (groups groups' : Store Group) : Prop where
  next : groups'.next = groups.next
  get? : ∀ g ∉ gs, groups'.get? g = groups.get? g
  size : ∀ g, (groups'.get? g).map Group.size = (groups.get? g).map Group.size

theorem groupsAlike_refl (groups : Store Group) : GroupsAlike gs groups groups :=
  ⟨rfl, fun _ _ => rfl, fun _ => rfl⟩

namespace GroupsAlike

variable {groups groups' : Store Group}

theorem add (h : GroupsAlike gs groups groups') (made : Group) :
    GroupsAlike gs (groups.add made).2 (groups'.add made).2 where
  next := by rw [Store.next_add, Store.next_add, h.next]
  get? g hg := by rw [Store.get?_add, Store.get?_add, h.next, h.get? g hg]
  size g := by
    rw [Store.get?_add, Store.get?_add, h.next]
    split
    · rfl
    · exact h.size g

theorem set (h : GroupsAlike gs groups groups') (place : Nat) (made : Group) :
    GroupsAlike gs (groups.set place made) (groups'.set place made) where
  next := by rw [Store.next_set, Store.next_set, h.next]
  get? g hg := by rw [Store.get?_set, Store.get?_set, h.get? g hg]
  size g := by
    rw [Store.get?_set, Store.get?_set]
    split
    · have hsame := congrArg (Option.map fun _ => made.size) (h.size g)
      rw [Option.map_map, Option.map_map] at hsame
      rw [Option.map_map, Option.map_map]
      exact hsame
    · exact h.size g

/-- A group among `gs` may become another of the same size. -/
theorem set_left (h : GroupsAlike gs groups groups') {place : Nat} (hplace : place ∈ gs) {g made : Group}
    (hg : groups.get? place = some g) (hsize : made.size = g.size) :
    GroupsAlike gs (groups.set place made) groups' where
  next := by rw [h.next, Store.next_set]
  get? other hother := by
    rw [h.get? other hother, Store.get?_set_of_ne]
    rintro rfl
    exact hother hplace
  size other := by
    rw [h.size other, Store.get?_set]
    split
    · next hsame =>
      subst hsame
      rw [hg, Option.map_some, Option.map_some, Option.map_some, hsize]
    · rfl

end GroupsAlike

/-- Sessions that are the same up to what is registered with the groups among `gs`. -/
def Alike (gs : List Nat) (s s' : Session) : Prop :=
  ∃ groups, s' = { s with groups } ∧ GroupsAlike gs s.groups groups

/-- An action that answers the same in alike sessions and leaves them alike. -/
def Respects (gs : List Nat) (a : Action α) : Prop :=
  ∀ s s' : Session, Alike gs s s' →
    (s'.perform a).1 = (s.perform a).1 ∧ Alike gs (s.perform a).2 (s'.perform a).2

/-! ## Rules for actions -/

theorem respects_pure (x : α) : Respects gs (pure x) := fun _ _ h => ⟨rfl, h⟩

theorem respects_ofExcept (r : Except Fault α) : Respects gs (MonadExcept.ofExcept r) := by
  intro s s' h
  rw [perform_ofExcept, perform_ofExcept]
  exact ⟨rfl, h⟩

theorem respects_bind {a : Action α} {k : α → Action β} (ha : Respects gs a)
    (hk : ∀ x, Respects gs (k x)) : Respects gs (a >>= k) := by
  intro s s' h
  obtain ⟨hanswer, halike⟩ := ha s s' h
  rw [perform_bind, perform_bind]
  rcases ha₁ : s.perform a with ⟨r₁, s₁⟩
  rcases ha₁' : s'.perform a with ⟨r₁', s₁'⟩
  rw [ha₁, ha₁'] at hanswer halike
  obtain rfl : r₁' = r₁ := hanswer
  cases r₁' with
  | error e => exact ⟨rfl, halike⟩
  | ok x => exact hk x _ _ halike

theorem respects_map (f : α → β) {a : Action α} (ha : Respects gs a) : Respects gs (f <$> a) := by
  intro s s' h
  obtain ⟨hanswer, halike⟩ := ha s s' h
  rw [perform_map, perform_map, hanswer]
  exact ⟨rfl, halike⟩

theorem respects_attempt {a : Action α} (ha : Respects gs a) : Respects gs (attempt a) := by
  intro s s' h
  obtain ⟨hanswer, halike⟩ := ha s s' h
  rw [perform_attempt, perform_attempt, hanswer]
  exact ⟨rfl, halike⟩

/-- The state may be looked at, but for the groups. -/
theorem respects_get {k : Session → Action α} (hblind : ∀ s groups, k { s with groups } = k s)
    (hk : ∀ s, Respects gs (k s)) : Respects gs (get >>= k) := by
  rintro s _ ⟨groups, rfl, h⟩
  rw [perform_bind_of_ok perform_get, perform_bind_of_ok perform_get, hblind]
  exact hk s s _ ⟨groups, rfl, h⟩

/-- An action that neither sees nor changes the groups. -/
theorem respects_of_blind {a : Action α}
    (hblind : ∀ (s : Session) groups,
      ({ s with groups } : Session).perform a = ((s.perform a).1, { (s.perform a).2 with groups }))
    (hkeeps : ∀ s : Session, (s.perform a).2.groups = s.groups) : Respects gs a := by
  rintro s _ ⟨groups, rfl, h⟩
  rw [hblind]
  exact ⟨rfl, groups, rfl, hkeeps s ▸ h⟩

theorem respects_addGroup (made : Group) : Respects gs (addGroup made) := by
  rintro s _ ⟨groups, rfl, h⟩
  refine ⟨?_, (groups.add made).2, rfl, h.add made⟩
  show Except.ok groups.next = Except.ok s.groups.next
  rw [h.next]

/-- A group is found in both sessions or in neither, and has one size in both. -/
theorem perform_group_of_alike {s : Session} {groups : Store Group} (h : GroupsAlike gs s.groups groups)
    (place : Nat) :
    (∃ e, s.perform (group place) = (.error e, s) ∧
      ({ s with groups } : Session).perform (group place) = (.error e, { s with groups })) ∨
    ∃ g g', s.perform (group place) = (.ok g, s) ∧
      ({ s with groups } : Session).perform (group place) = (.ok g', { s with groups }) ∧
      g'.size = g.size ∧ (place ∉ gs → g' = g) := by
  have hsize := h.size place
  cases hg : s.groups.get? place with
  | none =>
    have hg' : groups.get? place = none := by simpa [hg] using hsize
    exact .inl ⟨_, perform_fetch_of_none hg, perform_fetch_of_none hg'⟩
  | some g =>
    obtain ⟨g', hg', hsame⟩ : ∃ g', groups.get? place = some g' ∧ g'.size = g.size := by
      simpa [hg] using hsize
    refine .inr ⟨g, g', perform_fetch_of_some hg, perform_fetch_of_some hg', hsame, fun hplace => ?_⟩
    have hget : groups.get? place = s.groups.get? place := h.get? place hplace
    rw [hg, hg'] at hget
    exact Option.some.inj hget

/-- The size of any group may be looked at. -/
theorem respects_size (place : Nat) {k : Nat → Action α} (hk : ∀ n, Respects gs (k n)) :
    Respects gs (group place >>= fun g => k g.size) := by
  rintro s _ ⟨groups, rfl, h⟩
  rcases perform_group_of_alike h place with ⟨e, herror, herror'⟩ | ⟨g, g', hok, hok', hsame, -⟩
  · rw [perform_bind_of_error herror, perform_bind_of_error herror']
    exact ⟨rfl, groups, rfl, h⟩
  · rw [perform_bind_of_ok hok, perform_bind_of_ok hok', hsame]
    exact hk g.size s _ ⟨groups, rfl, h⟩

/-- A group that is not among `gs` may be looked at. -/
theorem respects_group_bind {place : Nat} (hplace : place ∉ gs) {k : Group → Action α}
    (hk : ∀ g, Respects gs (k g)) : Respects gs (group place >>= k) := by
  rintro s _ ⟨groups, rfl, h⟩
  rcases perform_group_of_alike h place with ⟨e, herror, herror'⟩ | ⟨g, g', hok, hok', -, hsame⟩
  · rw [perform_bind_of_error herror, perform_bind_of_error herror']
    exact ⟨rfl, groups, rfl, h⟩
  · rw [perform_bind_of_ok hok, perform_bind_of_ok hok', hsame hplace]
    exact hk g s _ ⟨groups, rfl, h⟩

theorem respects_of_aside {a : Action α} (ha : Aside a) : Respects gs a := by
  refine respects_of_blind (fun s groups => ?_) fun s => ?_
  · have hobjects : (s.perform a).2.objects = s.objects := ha.objects rfl
    have hother : (s.perform a).2.withObjects { s.objects with groups } =
        { (s.perform a).2 with groups } := by
      rw [← hobjects]
      rfl
    rw [← hother]
    exact ha s { s.objects with groups }
  · exact congrArg Objects.groups (ha.objects rfl)

theorem respects_fetch {store : Session → Store α} (hblind : ∀ s groups, store { s with groups } = store s)
    (place : Nat) : Respects gs (fetch store place) := by
  refine respects_get (fun s groups => ?_) fun s => ?_
  · simp only [hblind]
  · split
    · exact respects_pure _
    · exact respects_ofExcept (.error _)

/-! ## Loading -/

theorem respects_plainGroup (name : String) (dir : Option String) (options : Option Options) :
    Respects gs (plainGroup name dir options) :=
  respects_bind (respects_of_aside (aside_createGroup name dir options)) respects_addGroup

theorem respects_buildGroup (t : Target) (o : Options) : Respects gs (buildGroup t o) :=
  respects_bind (respects_of_aside (aside_createGroup t.name none (some o))) fun _ =>
    respects_bind (respects_ofExcept _) fun _ => respects_addGroup _

theorem respects_cache (place : Nat) : Respects gs (cache place) :=
  respects_fetch (fun _ _ => rfl) place

theorem respects_run (place : Nat) : Respects gs (run place) :=
  respects_fetch (fun _ _ => rfl) place

theorem respects_draft (place : Nat) : Respects gs (draft place) :=
  respects_fetch (fun _ _ => rfl) place

theorem respects_target (place : Nat) : Respects gs (target place) :=
  respects_fetch (fun _ _ => rfl) place

theorem respects_find (name : CacheName) : Respects gs name.find := by
  cases name with
  | ofRun r => exact respects_map _ (respects_run r)
  | place p => exact respects_pure p

theorem respects_setCache (place : Nat) (c : Template.Cache Nat) : Respects gs (setCache place c) :=
  respects_of_blind (fun _ _ => rfl) fun _ => rfl

theorem respects_addCache (c : Template.Cache Nat) : Respects gs (addCache c) :=
  respects_of_blind (fun _ _ => rfl) fun _ => rfl

theorem respects_addRun (r : Run) : Respects gs (addRun r) :=
  respects_of_blind (fun _ _ => rfl) fun _ => rfl

theorem respects_report (component : Component) (e : Journal.Event) :
    Respects gs (report component e) :=
  respects_of_aside (aside_report component e)

theorem respects_keepGroup (place : Nat) (i : Identity) (built : Except Fault Nat) :
    Respects gs (keepGroup place i built) := by
  refine respects_bind (respects_cache place) fun c => ?_
  rcases c.settle i (built.map some) with ⟨answer, c'⟩
  refine respects_bind (respects_setCache place c') fun _ =>
    respects_bind (respects_ofExcept answer) fun g => ?_
  let reported (size : Nat) : Action Nat := do
    report .cache (.groupLoaded (.text i.name) (.int size))
    return g
  have hreported (size : Nat) : Respects gs (reported size) :=
    respects_bind (respects_report _ _) fun _ => respects_pure g
  exact respects_size g hreported

theorem respects_obtainGroup (place : Nat) (i : Identity) {make : Action Nat}
    (hmake : Respects gs make) : Respects gs (obtainGroup place i make) := by
  refine respects_bind (respects_cache place) fun c => ?_
  rcases c.request i with ⟨found, c'⟩
  refine respects_bind (respects_setCache place c') fun _ => ?_
  cases found with
  | some g => exact respects_bind (respects_report _ _) fun _ => respects_pure g
  | none =>
    exact respects_bind (respects_report _ _) fun _ =>
      respects_bind (respects_attempt hmake) (respects_keepGroup place i)

/-! ## Steps -/

theorem respects_inquire (name : CacheName) (i : Inquiry) : Respects gs (i.act name) := by
  refine respects_bind (respects_find name) fun place => respects_bind (respects_cache place) fun c => ?_
  cases i with
  | get i => exact respects_pure _
  | contains i => exact respects_pure _
  | invalidate i => exact respects_bind (respects_setCache _ _) fun _ => respects_pure _
  | clear => exact respects_bind (respects_setCache _ _) fun _ => respects_pure _
  | statistics => exact respects_pure _

theorem respects_changeDraft (place : Nat) (c : Change) : Respects gs (c.act place) := by
  have hset (d : Run.Draft) : Respects gs (setDraft place d) :=
    respects_of_blind (fun _ _ => rfl) fun _ => rfl
  have hchange (c : Change) : Respects gs (do
      setDraft place (c.apply (← draft place))
      return Answer.done) :=
    respects_bind (respects_draft place) fun d =>
      respects_bind (hset (c.apply d)) fun _ => respects_pure _
  cases c with
  | cache shared => exact respects_bind (respects_cache shared) fun _ => hchange (.cache shared)
  | grammar g => exact hchange (.grammar g)
  | options o => exact hchange (.options o)
  | note key value => exact hchange (.note key value)

theorem respects_createRun (grammar : String) (options : Option Options)
    (metadata : List (Value × Value)) : Respects gs (createRun grammar options metadata) :=
  respects_get (fun _ _ => rfl) fun _ =>
    respects_bind (respects_ofExcept _) fun r =>
      respects_bind (respects_addCache {}) fun _ => respects_addRun r

theorem respects_buildRun (place : Nat) : Respects gs (buildRun place) := by
  refine respects_bind (respects_draft place) fun d => respects_get (fun _ _ => rfl) fun _ =>
    respects_bind (respects_ofExcept _) fun r => ?_
  cases d.cache with
  | none => exact respects_bind (respects_addCache {}) fun _ => respects_addRun r
  | some shared => exact respects_addRun r

theorem respects_done {a : Action Unit} (ha : Aside a) :
    Respects gs (a >>= fun _ => pure Answer.done) :=
  respects_bind (respects_of_aside ha) fun _ => respects_pure _

theorem respects_setGroup (place : Nat) (g : Group) : Respects gs (setGroup place g) := by
  rintro s _ ⟨groups, rfl, h⟩
  exact ⟨rfl, groups.set place g, rfl, h.set place g⟩

/-- A step respects groups that it is not about. -/
theorem respects_act {step : Step} (h : ∀ g, step.group? = some g → g ∉ gs) : Respects gs step.act := by
  cases step with
  | addTarget t => exact respects_map _ (respects_of_blind (fun _ _ => rfl) fun _ => rfl)
  | openCache => exact respects_map _ (respects_addCache {})
  | createRun grammar options metadata =>
    exact respects_map _ (respects_createRun grammar options metadata)
  | openDraft => exact respects_map _ (respects_of_blind (fun _ _ => rfl) fun _ => rfl)
  | changeDraft d c => exact respects_changeDraft d c
  | buildRun d => exact respects_map _ (respects_buildRun d)
  | load a r =>
    exact respects_map _ <| respects_bind (respects_target a) fun t =>
      respects_bind (respects_run r) fun run =>
        respects_obtainGroup run.cache t.identity (respects_buildGroup t run.options)
  | obtain name i dir options =>
    exact respects_bind (respects_find name) fun place =>
      respects_map _ (respects_obtainGroup place i (respects_plainGroup i.name dir options))
  | inquire name i => exact respects_inquire name i
  | register g r =>
    have hg : g ∉ gs := h g rfl
    cases r with
    | renderer mode f =>
      refine respects_bind (respects_group_bind hg fun g' => ?_) fun _ => respects_pure _
      exact respects_bind (respects_ofExcept _) fun _ => respects_setGroup _ _
    | constant name v =>
      refine respects_bind (respects_group_bind hg fun g' => ?_) fun _ => respects_pure _
      exact respects_setGroup _ _
  | use g u => exact respects_group_bind (h g rfl) fun g' => respects_ofExcept _
  | putFile name c => exact respects_done (aside_putFile name c)
  | makeDirectory name => exact respects_done (aside_makeDirectory name)
  | removeFile name => exact respects_done (aside_removeFile name)

/-! ## Histories -/

/-- A step about a group among `gs`. -/
def Step.about (gs : List Nat) (step : Step) : Bool := step.group?.any gs.contains

theorem Step.about_iff {step : Step} : step.about gs = true ↔ ∃ g ∈ gs, step.group? = some g := by
  rw [about, Option.any_eq_true]
  constructor
  · rintro ⟨g, hgroup, hg⟩
    exact ⟨g, List.contains_iff_mem.mp hg, hgroup⟩
  · rintro ⟨g, hg, hgroup⟩
    exact ⟨g, hgroup, List.contains_iff_mem.mpr hg⟩

theorem size_register (g : Group) (r : Group.Registration) : (g.register r).size = g.size := by
  obtain ⟨renderers, globals, h⟩ := g.after_eq [r]
  have hregister : g.register r =
      { g with surroundings := ⟨renderers, globals, g.surroundings.showAbsent⟩ } := h
  rw [hregister]
  rfl

/-- Registering something with a group among `gs` leaves the session alike. -/
theorem alike_register {s s' : Session} (h : Alike gs s s') {place : Nat} (hplace : place ∈ gs)
    (r : Group.Registration) : Alike gs (s.perform (Step.register place r).act).2 s' := by
  rcases perform_register s place r with ⟨e, hfailed⟩ | ⟨g, hg, hdone⟩
  · rw [hfailed]
    exact h
  · obtain ⟨groups, rfl, halike⟩ := h
    rw [hdone]
    exact ⟨groups, rfl, halike.set_left hplace hg (size_register g r)⟩

/-- Using a group changes nothing. -/
theorem perform_use (s : Session) (place : Nat) (u : Use) :
    (s.perform (Step.use place u).act).2 = s := by
  rw [Step.act, group]
  cases hg : s.groups.get? place with
  | none => rw [perform_bind_of_error (perform_fetch_of_none hg)]
  | some g => rw [perform_bind_of_ok (perform_fetch_of_some hg), perform_ofExcept]

/-- Leaving out registrations with the groups among `gs` changes no answer but those of steps about these
groups. -/
theorem history_without {s s' : Session} (h : Alike gs s s') (steps : List Step) :
    ((s'.history (steps.filter fun step => !step.registersAmong gs)).filter fun e => !e.1.about gs) =
      (s.history steps).filter fun e => !e.1.about gs := by
  induction steps generalizing s s' with
  | nil => rfl
  | cons step rest ih =>
    by_cases habout : step.about gs = true
    · -- a registration is left out, and what a use of the group answers does not count
      obtain ⟨place, hplace, hgroup⟩ := Step.about_iff.mp habout
      cases step with
      | register place' r =>
        obtain rfl : place' = place := Option.some.inj hgroup
        have hout : (Step.register place' r).registersAmong gs = true := List.contains_iff_mem.mpr hplace
        rw [List.filter_cons_of_neg (by simp [hout]), history, List.filter_cons_of_neg (by simp [habout])]
        exact ih (alike_register h hplace r)
      | use place' u =>
        rw [List.filter_cons_of_pos rfl, history, history, List.filter_cons_of_neg (by simp [habout]),
          List.filter_cons_of_neg (by simp [habout]), perform_use, perform_use]
        exact ih h
      | _ => cases hgroup
    · have hin : step.registersAmong gs = false := by
        cases step with
        | register place r => exact Bool.eq_false_iff.mpr habout
        | _ => rfl
      have hrespects : Respects gs step.act :=
        respects_act fun g hgroup hg => habout (Step.about_iff.mpr ⟨g, hg, hgroup⟩)
      obtain ⟨hanswer, halike⟩ := hrespects s s' h
      rw [List.filter_cons_of_pos (by simp [hin]), history, history,
        List.filter_cons_of_pos (by simp [habout]), List.filter_cons_of_pos (by simp [habout]), hanswer,
        ih halike]

end Emission.Session
