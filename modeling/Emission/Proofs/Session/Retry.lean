import Emission.Proofs.Session.Reachable
import Emission.Proofs.Session.Actions

/-!
# Loads that fail

A load that cannot build its group leaves a count of it in the cache that it asked, records in the journal and
nothing else; so the next load for the same run starts like one for a run that has just been made. Main
statement: `retry_of_failed_load`. What building comes to depends on the files alone (`groupFor`).
-/

namespace Emission.Session

open Files (Path)
open Template (Cache Group)

variable {s s' : Session}

/-! ## What building a group comes to -/

/-- The directory of a target's templates: one in the directory that options name, or that of the library. -/
def templatesOf (t : Target) : Option String → Path
  | some dir => .ofText dir
  | none => Group.shippedDir t.name

/-- The group of a target for options, or why it cannot be made from these files. -/
def groupFor (fs : Files) (t : Target) (o : Options) : Except Fault Group := do
  let dir ← optionDir t.name o
  let plain ← Group.ofDirectory fs t.name (templatesOf t dir) (groupOptions o)
  let full ← plain.registerAll t.strategy.renderers
  return full.setGlobal "escape_mode" o.escapeMode

theorem perform_openGroup (s : Session) (t : Target) (dir : Option String) (o : Template.GroupOptions) :
    s.perform (openGroup t.name dir o) = (Group.ofDirectory s.files t.name (templatesOf t dir) o, s) := by
  unfold openGroup
  rw [perform_bind_of_ok perform_get, perform_ofExcept]
  cases dir <;> rfl

/-- Building a group comes to what the files say, and besides the group it leaves records only. -/
theorem perform_buildGroup (s : Session) (t : Target) (o : Options) :
    ∃ ms, s.perform (buildGroup t o) =
      match groupFor s.files t o with
      | .error e => (.error e, s.recorded ms)
      | .ok made =>
        (.ok s.groups.next, { s.recorded ms with groups := (s.groups.add made).2 }) := by
  have hcreate : createGroup t.name none (some o) = (do
      let dir ← MonadExcept.ofExcept (optionDir t.name o)
      let g ← openGroup t.name dir (groupOptions o)
      record .templates .debug
        ("Parsed " ++ toString g.size ++ " templates from " ++ g.dir.text)
      return g) := rfl
  rw [buildGroup, groupFor, hcreate, bind_assoc]
  cases optionDir t.name o with
  | error e =>
    rw [perform_bind_of_error (perform_ofExcept _ s)]
    exact ⟨[], rfl⟩
  | ok dir =>
    rw [perform_bind_of_ok (perform_ofExcept _ s), ok_bind, bind_assoc]
    cases hplain : Group.ofDirectory s.files t.name (templatesOf t dir) (groupOptions o) with
    | error e =>
      rw [perform_bind_of_error (hplain ▸ perform_openGroup s t dir _)]
      exact ⟨[], rfl⟩
    | ok plain =>
      rw [perform_bind_of_ok (hplain ▸ perform_openGroup s t dir _), ok_bind, bind_assoc,
        perform_bind_of_ok (perform_record s _ _ _), pure_bind, perform_bind, perform_ofExcept]
      -- the templates are recorded before anything is registered with the group
      refine ⟨[(.templates, .debug,
        "Parsed " ++ toString plain.size ++ " templates from " ++ plain.dir.text)], ?_⟩
      cases plain.registerAll t.strategy.renderers <;> rfl

/-! ## Loads that find no group -/

/-- What is recorded of a group that is not in the cache. -/
def missMessage (t : Target) : Message :=
  (.cache, (Journal.Event.cacheMiss (.text t.name)).severity,
    (Journal.Event.cacheMiss (.text t.name)).message)

/-- The session in which a group is built for a cache that has none: the miss is counted and recorded. -/
def missed (s : Session) (t : Target) (place : Nat) (c : Cache Nat) : Session :=
  ({ s with caches := s.caches.set place { c with misses := c.misses + 1 } } : Session).recorded
    [missMessage t]

section Load

variable {a r : Nat} {t : Target} {run : Run} {c : Cache Nat}

theorem perform_loadGroup_of_none (ht : s.targets.get? a = some t) (hr : s.runs.get? r = some run)
    (hc : s.caches.get? run.cache = some c) (hget : c.get t.identity = none) :
    s.perform (loadGroup a r) =
      (s.missed t run.cache c).perform
        (attempt (buildGroup t run.options) >>= keepGroup run.cache t.identity) := by
  rw [loadGroup_eq, target, Session.run, perform_bind_of_ok (perform_fetch_of_some ht),
    perform_bind_of_ok (perform_fetch_of_some hr), perform_obtainGroup_of_none hc hget,
    perform_bind_of_ok (perform_report _ _ _)]
  rfl

/-- If the files give no group, the load fails like the building does and leaves a count and records. -/
theorem perform_loadGroup_of_error (ht : s.targets.get? a = some t) (hr : s.runs.get? r = some run)
    (hc : s.caches.get? run.cache = some c) (hget : c.get t.identity = none) {e : Fault}
    (hbuild : groupFor (s.missed t run.cache c).files t run.options = .error e) :
    ((s.missed t run.cache c).perform (buildGroup t run.options)).1 = .error e ∧
      ∃ ms, s.perform (loadGroup a r) = (.error e, (s.missed t run.cache c).recorded ms) := by
  obtain ⟨ms, hperform⟩ := perform_buildGroup (s.missed t run.cache c) t run.options
  simp only [hbuild] at hperform
  have hcache : ((s.missed t run.cache c).recorded ms).caches.get? run.cache =
      some { c with misses := c.misses + 1 } := Store.get?_set_self hc _
  refine ⟨congrArg Prod.fst hperform, ms, ?_⟩
  rw [perform_loadGroup_of_none ht hr hc hget, perform_bind_of_ok (perform_attempt _ _), hperform]
  exact perform_keepGroup_error hcache e

/-- If the files give a group, the load answers it. -/
theorem perform_loadGroup_of_ok (ht : s.targets.get? a = some t) (hr : s.runs.get? r = some run)
    (hc : s.caches.get? run.cache = some c) (hget : c.get t.identity = none) {made : Group}
    (hbuild : groupFor (s.missed t run.cache c).files t run.options = .ok made) :
    (s.perform (loadGroup a r)).1 = .ok s.groups.next ∧
      (s.perform (loadGroup a r)).2.groups.get? s.groups.next = some made := by
  obtain ⟨ms, hperform⟩ := perform_buildGroup (s.missed t run.cache c) t run.options
  simp only [hbuild] at hperform
  let built : Session :=
    { (s.missed t run.cache c).recorded ms with groups := (s.groups.add made).2 }
  have hcache : built.caches.get? run.cache = some { c with misses := c.misses + 1 } :=
    Store.get?_set_self hc _
  have hmade : built.groups.get? s.groups.next = some made := Store.get?_add_self s.groups made
  have hload : s.perform (loadGroup a r) =
      built.perform (keepGroup run.cache t.identity (.ok s.groups.next)) := by
    rw [perform_loadGroup_of_none ht hr hc hget, perform_bind_of_ok (perform_attempt _ _), hperform]
    rfl
  rw [hload, perform_keepGroup_ok hcache hmade, perform_bind_of_ok (perform_report _ _ _)]
  exact ⟨rfl, hmade⟩

/-- A load that finds its group does not fail. -/
theorem perform_loadGroup_ne_error (ht : s.targets.get? a = some t) (hr : s.runs.get? r = some run)
    (hc : s.caches.get? run.cache = some c) {g : Nat} (hget : c.get t.identity = some g) (e : Fault) :
    (s.perform (loadGroup a r)).1 ≠ .error e := by
  rw [loadGroup_eq, target, Session.run, perform_bind_of_ok (perform_fetch_of_some ht),
    perform_bind_of_ok (perform_fetch_of_some hr), perform_obtainGroup_of_some hc hget,
    perform_bind_of_ok (perform_report _ _ _)]
  intro hno
  cases hno

/-- A load that fails found no group and could not build one. What it leaves is a count of it and records. -/
theorem trace_of_failed_load (hs : Linked s) (ht : s.targets.get? a = some t)
    (hr : s.runs.get? r = some run) {e : Fault} (hfail : s.perform (loadGroup a r) = (.error e, s')) :
    ∃ c ms, s.caches.get? run.cache = some c ∧ c.get t.identity = none ∧
      ((s.missed t run.cache c).perform (buildGroup t run.options)).1 = .error e ∧
      s' = ({ s with caches := s.caches.set run.cache { c with misses := c.misses + 1 } } :
        Session).recorded ms := by
  obtain ⟨c, hc⟩ := Store.exists_get? (hs.cache_lt hr)
  -- it neither found a group nor could it build one, since it failed
  cases hget : c.get t.identity with
  | some g => exact absurd (congrArg Prod.fst hfail) (perform_loadGroup_ne_error ht hr hc hget e)
  | none =>
    cases hbuild : groupFor (s.missed t run.cache c).files t run.options with
    | ok made =>
      have hanswer := (perform_loadGroup_of_ok ht hr hc hget hbuild).1
      rw [hfail] at hanswer
      cases hanswer
    | error e' =>
      obtain ⟨hbuilding, ms, hload⟩ := perform_loadGroup_of_error ht hr hc hget hbuild
      obtain ⟨heq, rfl⟩ := Prod.mk.inj (hfail.symm.trans hload)
      obtain rfl := Except.error.inj heq
      exact ⟨c, _, hc, hget, hbuilding, recorded_append _ _ ms⟩

end Load

/-! ## Between two loads -/

/-- A change of the files, or a load that failed. -/
def Fruitless : Step × Except Fault Answer → Prop
  | (.putFile .., _) | (.makeDirectory _, _) | (.removeFile _, _) | (.load .., .error _) => True
  | _ => False

/-- The same targets and runs, and the same groups in every cache. -/
structure KeepsGroups (s s' : Session) : Prop where
  targets : s'.targets = s.targets
  runs : s'.runs = s.runs
  entries : ∀ place, (s'.caches.get? place).map Cache.entries = (s.caches.get? place).map Cache.entries

namespace KeepsGroups

theorem refl (s : Session) : KeepsGroups s s := ⟨rfl, rfl, fun _ => rfl⟩

theorem trans {s₁ s₂ s₃ : Session} (h : KeepsGroups s₁ s₂) (h' : KeepsGroups s₂ s₃) : KeepsGroups s₁ s₃ :=
  ⟨h'.targets.trans h.targets, h'.runs.trans h.runs, fun place =>
    (h'.entries place).trans (h.entries place)⟩

theorem of_aside {α : Type} {a : Action α} (ha : Aside a) (s : Session) : KeepsGroups s (s.perform a).2 := by
  have hobjects : (s.perform a).2.objects = s.objects := ha.objects rfl
  exact ⟨congrArg Objects.targets hobjects, congrArg Objects.runs hobjects, fun place =>
    congrArg (fun o : Objects => (o.caches.get? place).map Cache.entries) hobjects⟩

/-- Counting a miss changes no group. -/
theorem of_failed_load (hs : Linked s) {a r : Nat} {e : Fault}
    (hfail : s.perform (loadGroup a r) = (.error e, s')) : KeepsGroups s s' := by
  cases ht : s.targets.get? a with
  | none =>
    rw [loadGroup_eq, target, perform_bind_of_error (perform_fetch_of_none ht)] at hfail
    obtain ⟨-, rfl⟩ := Prod.mk.inj hfail
    exact refl s
  | some t =>
    cases hr : s.runs.get? r with
    | none =>
      rw [loadGroup_eq, target, Session.run, perform_bind_of_ok (perform_fetch_of_some ht),
        perform_bind_of_error (perform_fetch_of_none hr)] at hfail
      obtain ⟨-, rfl⟩ := Prod.mk.inj hfail
      exact refl s
    | some run =>
      obtain ⟨c, ms, hc, -, -, rfl⟩ := trace_of_failed_load hs ht hr hfail
      refine ⟨rfl, rfl, fun place => ?_⟩
      show ((s.caches.set run.cache _).get? place).map Cache.entries = _
      rw [Store.get?_set]
      split
      · next heq =>
        subst heq
        rw [hc]
        rfl
      · rfl

theorem of_fruitless (hs : Linked s) {step : Step} (h : Fruitless (step, (s.perform step.act).1)) :
    KeepsGroups s (s.perform step.act).2 := by
  cases step with
  | putFile name c => exact of_aside (aside_bind (aside_putFile name c) fun _ => aside_pure _) s
  | makeDirectory name => exact of_aside (aside_bind (aside_makeDirectory name) fun _ => aside_pure _) s
  | removeFile name => exact of_aside (aside_bind (aside_removeFile name) fun _ => aside_pure _) s
  | load a r =>
    rw [Step.act, perform_map] at h ⊢
    rcases hload : s.perform (loadGroup a r) with ⟨e | g, s'⟩
    · exact of_failed_load hs hload
    · rw [hload] at h
      exact h.elim
  | _ => exact h.elim

theorem of_history (hs : Linked s) {steps : List Step} (h : ∀ entry ∈ s.history steps, Fruitless entry) :
    KeepsGroups s (s.after steps) ∧ Linked (s.after steps) := by
  induction steps generalizing s with
  | nil => exact ⟨refl s, hs⟩
  | cons step rest ih =>
    obtain ⟨hfirst, hrest⟩ := List.forall_mem_cons.mp h
    obtain ⟨hkept, hlinked⟩ := ih (hs.step step) hrest
    exact ⟨(of_fruitless hs hfirst).trans hkept, hlinked⟩

end KeepsGroups

/-! ## Trying again -/

/-- Loading the templates of a target for a run comes to the same as loading them for a run that is made now
and is like it: both fail alike, or both answer a group, and the groups are the same. -/
def LoadsAsNew (s : Session) (a r : Nat) (run : Run) : Prop :=
  ∃ q fresh, s.perform (createRun run.grammar (some run.options) run.metadata) = (.ok q, fresh) ∧
    (s.perform (loadGroup a r)).1 = (fresh.perform (loadGroup a q)).1 ∧
    ∀ g, (s.perform (loadGroup a r)).1 = .ok g → ∃ made : Group,
      (s.perform (loadGroup a r)).2.groups.get? g = some made ∧
        (fresh.perform (loadGroup a q)).2.groups.get? g = some made

theorem loadsAsNew_of_none (hs : Linked s) {a r : Nat} {t : Target} {run : Run} {c : Cache Nat}
    (ht : s.targets.get? a = some t) (hr : s.runs.get? r = some run)
    (hc : s.caches.get? run.cache = some c) (hget : c.get t.identity = none) :
    LoadsAsNew s a r run := by
  let like : Run := ⟨run.grammar, run.options, run.metadata, s.caches.next⟩
  let fresh : Session :=
    { s with caches := (s.caches.add {}).2, runs := (s.runs.add like).2 }
  have hmake : Run.make run.grammar (some run.options) run.metadata s.caches.next = .ok like :=
    Run.make_eq_ok_iff.mpr ⟨hs.grammar_ne hr, hs.valid hr, rfl⟩
  have ht' : fresh.targets.get? a = some t := ht
  have hlike : fresh.runs.get? s.runs.next = some like := Store.get?_add_self s.runs like
  have hempty : fresh.caches.get? like.cache = some {} := Store.get?_add_self s.caches {}
  -- what building comes to depends on the files, and these are the same for both loads
  have hfiles : (fresh.missed t like.cache {}).files = (s.missed t run.cache c).files := rfl
  refine ⟨s.runs.next, fresh, perform_createRun hmake, ?_⟩
  cases hbuild : groupFor (s.missed t run.cache c).files t run.options with
  | error e =>
    obtain ⟨-, ms, hload⟩ := perform_loadGroup_of_error ht hr hc hget hbuild
    obtain ⟨-, ms', hload'⟩ := perform_loadGroup_of_error ht' hlike hempty rfl (hfiles ▸ hbuild)
    rw [hload, hload']
    refine ⟨rfl, fun g hno => ?_⟩
    cases hno
  | ok made =>
    obtain ⟨hanswer, hmade⟩ := perform_loadGroup_of_ok ht hr hc hget hbuild
    obtain ⟨hanswer', hmade'⟩ := perform_loadGroup_of_ok ht' hlike hempty rfl (hfiles ▸ hbuild)
    refine ⟨hanswer.trans hanswer'.symm, fun g hg => ?_⟩
    obtain rfl := Except.ok.inj (hanswer.symm.trans hg)
    exact ⟨made, hmade, hmade'⟩

/-- A load that fails found no group in the cache of its run. The fault is that of building one; the cache counts
a miss, journal and files keep what was recorded, and all else is as it was. Whatever loads fail and however the
files change after it, the load comes to the same as one for a new run. -/
theorem retry_of_failed_load (hs : Reachable s) {a r : Nat} {t : Target} {run : Run} {e : Fault}
    (ht : s.targets.get? a = some t) (hr : s.runs.get? r = some run)
    (hfail : s.perform (loadGroup a r) = (.error e, s')) :
    (∃ c ms, s.caches.get? run.cache = some c ∧ c.get t.identity = none ∧
      ((s.missed t run.cache c).perform (buildGroup t run.options)).1 = .error e ∧
      s' = ({ s with caches := s.caches.set run.cache { c with misses := c.misses + 1 } } :
        Session).recorded ms) ∧
    ∀ between : List Step, (∀ entry ∈ s'.history between, Fruitless entry) →
      LoadsAsNew (s'.after between) a r run := by
  have hlinked : Linked s := linked_of_reachable hs
  obtain ⟨c, ms, hc, hget, hbuilding, htrace⟩ := trace_of_failed_load hlinked ht hr hfail
  refine ⟨⟨c, ms, hc, hget, hbuilding, htrace⟩, fun between hbetween => ?_⟩
  have hlinked' : Linked s' := by
    have hload : s' = (s.perform (loadGroup a r)).2 := (congrArg Prod.snd hfail).symm
    rw [hload]
    exact hlinked.of_ties (keeps_loadGroup a r s)
  obtain ⟨hkept, hlater⟩ := KeepsGroups.of_history hlinked' hbetween
  have hall : KeepsGroups s (s'.after between) :=
    (KeepsGroups.of_failed_load hlinked hfail).trans hkept
  have hentries := hall.entries run.cache
  rw [hc, Option.map_some] at hentries
  obtain ⟨c', hc', hsame⟩ := Option.map_eq_some_iff.mp hentries
  refine loadsAsNew_of_none hlater (hall.targets ▸ ht) (hall.runs ▸ hr) hc' ?_
  rw [Cache.get, hsame]
  exact hget

/-- The options of a run whose templates are in a directory of its own. -/
def ownTemplates : Options := { templateDir := .text "t" }

theorem groupFor_missing : groupFor Template.Shipped.files Target.Php.target ownTemplates =
    .error (.groupFailed "Php" "template directory not found: t/Php" none) := by
  have hfind : Template.Shipped.files.find (Path.ofText "t/Php") = .astray := by decide +kernel
  have hdir : Template.Shipped.files.isDirectory (Path.ofText "t/Php") = .ok false := by
    rw [Files.isDirectory, hfind]
  have hoption : optionDir Target.Php.target.name ownTemplates = .ok (some "t/Php") := by rfl
  rw [groupFor, hoption, ok_bind, templatesOf]
  exact congrArg (· >>= _) (Group.ofDirectory_of_no_directory hdir "Php" (groupOptions ownTemplates))

/-- The directory of the templates is not there at first and made after the load has failed. -/
theorem retry_of_failed_load_php :
    let s := (initial.perform (Call.step (.createRun "Expr" (some ownTemplates) [])).act).2
    let s' := (s.perform (loadGroup 0 0)).2
    let between : List Step := [.putFile "t/Php/x.j2" (.text "a")]
    let run : Run := ⟨"Expr", ownTemplates, [], 0⟩
    Reachable s ∧ s.targets.get? 0 = some Target.Php.target ∧ s.runs.get? 0 = some run ∧
      s.perform (loadGroup 0 0) =
        (.error (.groupFailed "Php" "template directory not found: t/Php" none), s') ∧
      (∀ entry ∈ s'.history between, Fruitless entry) ∧ LoadsAsNew (s'.after between) 0 0 run := by
  intro s s' between run
  have hs : Reachable s := .call .initial _
  have ht : s.targets.get? 0 = some Target.Php.target := rfl
  have hr : s.runs.get? 0 = some run := rfl
  have hfail : s.perform (loadGroup 0 0) =
      (.error (.groupFailed "Php" "template directory not found: t/Php" none), s') := by
    obtain ⟨-, ms, hload⟩ := perform_loadGroup_of_error ht hr (c := {}) rfl rfl groupFor_missing
    have hanswer : (s.perform (loadGroup 0 0)).1 =
        .error (.groupFailed "Php" "template directory not found: t/Php" none) := by rw [hload]
    exact Prod.ext hanswer rfl
  have hbetween : ∀ entry ∈ s'.history between, Fruitless entry := by
    intro entry hentry
    obtain rfl := List.mem_singleton.mp hentry
    trivial
  exact ⟨hs, ht, hr, hfail, hbetween, (retry_of_failed_load hs ht hr hfail).2 between hbetween⟩

end Emission.Session
