import Emission.Proofs.Session.Effect
import Emission.Proofs.Template.Shipped
import Emission.Target.Php

/-!
# Loading the shipped templates

What loading the PHP target comes to in a session with the files that come with the library. The sessions here
record nothing below a warning, so that loading leaves files and journal as they are.
-/

namespace Emission.Session

open Template (Group)
open Template.Shipped (Ships phpGroup ships_files)

/-- A session that records neither what informs nor what is for debugging. -/
def Silent (s : Session) : Prop := Severity.info.rank < s.journal.threshold

variable {s : Session}

theorem perform_record_of_rank (component : Component) {severity : Severity}
    (h : severity.rank < s.journal.threshold) (message : String) :
    s.perform (record component severity message) = (.ok (), s) := by
  have hrecord : s.journal.record s.files component.name severity message = (s.journal, s.files) :=
    if_pos h
  show (Except.ok (), _) = _
  simp only [hrecord]

theorem Silent.perform_report (hs : Silent s) (component : Component) (e : Journal.Event) :
    s.perform (report component e) = (.ok (), s) := by
  refine perform_record_of_rank component ?_ e.message
  have hrank : e.severity.rank ≤ Severity.info.rank := by
    cases e with
    | groupLoaded => exact Int.le_refl _
    | _ => exact Int.le_of_lt (by decide : Severity.debug.rank < Severity.info.rank)
  exact Int.lt_of_le_of_lt hrank hs

/-- A session at its start, where only what is critical is recorded. -/
def silentInitial : Session :=
  { initial with journal := { Journal.initial with level := 50 } }

/-- The same session with runs of one grammar, each using the cache at its place, and with groups. -/
def withRuns (places : List Nat) (caches : List (Template.Cache Nat)) (groups : List Group) : Session :=
  { silentInitial with
    runs := ⟨places.map fun place => ⟨"Expr", {}, [], place⟩⟩, caches := ⟨caches⟩, groups := ⟨groups⟩ }

theorem silent_withRuns (places : List Nat) (caches : List (Template.Cache Nat)) (groups : List Group) :
    Silent (withRuns places caches groups) :=
  (by decide : Severity.info.rank < Journal.threshold { Journal.initial with level := 50 })

/-- The group of the PHP target as it is made for a run with these options. -/
def loadedPhp (o : Options) (l : Template.Layout) : Group :=
  (phpGroup (groupOptions o) l).after
    [.renderer Target.Php.escapeMode Escape.reescape, .constant "escape_mode" o.escapeMode]

/-- A load that finds a group counts a hit. -/
theorem perform_loadGroup_of_some (hs : Silent s) {a r g : Nat} {t : Target} {run : Run}
    {c : Template.Cache Nat} (ht : s.targets.get? a = some t) (hr : s.runs.get? r = some run)
    (hc : s.caches.get? run.cache = some c) (hget : c.get t.identity = some g) :
    s.perform (loadGroup a r) =
      (.ok g, { s with caches := s.caches.set run.cache { c with hits := c.hits + 1 } }) := by
  have hs' : Silent { s with caches := s.caches.set run.cache { c with hits := c.hits + 1 } } := hs
  rw [loadGroup_eq, target, Session.run, perform_bind_of_ok (perform_fetch_of_some ht),
    perform_bind_of_ok (perform_fetch_of_some hr), perform_obtainGroup_of_some hc hget,
    perform_bind_of_ok (hs'.perform_report _ _)]
  rfl

section Php

variable {o : Options} {l : Template.Layout}

/-- A session that ships the templates makes their group, and records that it was made. -/
theorem perform_createGroup_of_ships (hships : Ships s.files) (hdir : o.templateDir.truthy = false)
    (hl : (groupOptions o).layout = .ok l) :
    ∃ message, s.perform (createGroup "Php" none (some o)) =
      (.ok (phpGroup (groupOptions o) l), (s.perform (record .templates .debug message)).2) := by
  have hoption : optionDir "Php" o = .ok none := by
    rw [optionDir, hdir]
    rfl
  have hopen : s.perform (openGroup "Php" none (groupOptions o)) =
      (.ok (phpGroup (groupOptions o) l), s) := by
    rw [openGroup, perform_bind_of_ok perform_get, perform_ofExcept]
    exact congrArg (·, s) (hships.ofDirectory (groupOptions o) l hl)
  have hrecord (message : String) : s.perform (record .templates .debug message) =
      (.ok (), (s.perform (record .templates .debug message)).2) := rfl
  have hcreate : createGroup "Php" none (some o) = (do
      let dir ← MonadExcept.ofExcept (optionDir "Php" o)
      let g ← openGroup "Php" dir (groupOptions o)
      record .templates .debug
        ("Parsed " ++ toString g.size ++ " templates from " ++ g.dir.text)
      return g) := rfl
  rw [hcreate, hoption, perform_bind_of_ok (perform_ofExcept _ s), perform_bind_of_ok hopen,
    perform_bind_of_ok (hrecord _)]
  exact ⟨_, rfl⟩

/-- A session that ships the templates makes the group of a target that is named like theirs. -/
theorem exists_buildGroup {t : Target} (hships : Ships s.files) (hname : t.name = "Php")
    (hmodes : "" ∉ t.strategy.renderers.modes) (hdir : o.templateDir.truthy = false)
    (hl : (groupOptions o).layout = .ok l) :
    ∃ place s', s.perform (buildGroup t o) = (.ok place, s') ∧
      s'.groups.get? place =
        some ((phpGroup (groupOptions o) l).after
          ((t.strategy.renderers.map fun r => .renderer r.1 r.2) ++ [.constant "escape_mode" o.escapeMode])) := by
  obtain ⟨message, hcreate⟩ := perform_createGroup_of_ships hships hdir hl
  obtain ⟨full, hfull⟩ := (phpGroup (groupOptions o) l).exists_registerAll hmodes
  rw [buildGroup, hname, perform_bind_of_ok hcreate, hfull, perform_bind_of_ok (perform_ofExcept _ _),
    Group.after_append, ← Group.after_of_registerAll hfull]
  exact ⟨_, _, rfl, Store.get?_add_self _ (full.setGlobal "escape_mode" o.escapeMode)⟩

theorem perform_createGroup_php (hs : Silent s) (hfiles : s.files = Template.Shipped.files)
    (hdir : o.templateDir.truthy = false) (hl : (groupOptions o).layout = .ok l) :
    s.perform (createGroup "Php" none (some o)) = (.ok (phpGroup (groupOptions o) l), s) := by
  obtain ⟨message, hcreate⟩ := perform_createGroup_of_ships (hfiles ▸ ships_files) hdir hl
  have hbelow : Severity.debug.rank < Severity.info.rank := by decide
  rw [hcreate, perform_record_of_rank .templates (Int.lt_trans hbelow hs) message]

theorem perform_buildGroup_php (hs : Silent s) (hfiles : s.files = Template.Shipped.files)
    (hdir : o.templateDir.truthy = false) (hl : (groupOptions o).layout = .ok l) :
    s.perform (buildGroup Target.Php.target o) =
      (.ok s.groups.next, { s with groups := (s.groups.add (loadedPhp o l)).2 }) := by
  have hcreate : s.perform (createGroup Target.Php.target.name none (some o)) =
      (.ok (phpGroup (groupOptions o) l), s) := perform_createGroup_php hs hfiles hdir hl
  have hregister : (phpGroup (groupOptions o) l).registerAll Target.Php.target.strategy.renderers =
      .ok ((phpGroup (groupOptions o) l).after [.renderer Target.Php.escapeMode Escape.reescape]) := rfl
  rw [buildGroup, perform_bind_of_ok hcreate, hregister, perform_bind_of_ok (perform_ofExcept _ s)]
  rfl

/-- The first load of the PHP target for a run makes its group. -/
theorem perform_loadGroup_php (hs : Silent s) (hfiles : s.files = Template.Shipped.files) {a r : Nat}
    {run : Run} {c : Template.Cache Nat} (ht : s.targets.get? a = some Target.Php.target)
    (hr : s.runs.get? r = some run) (hdir : run.options.templateDir.truthy = false)
    (hl : (groupOptions run.options).layout = .ok l) (hc : s.caches.get? run.cache = some c)
    (hget : c.get Target.Php.identity = none) :
    s.perform (loadGroup a r) =
      (.ok s.groups.next,
        { s with
          caches := s.caches.set run.cache
            ({ c with misses := c.misses + 1 }.store Target.Php.identity (some s.groups.next))
          groups := (s.groups.add (loadedPhp run.options l)).2 }) := by
  let t := Target.Php.target
  let place := s.groups.next
  let c' : Template.Cache Nat := { c with misses := c.misses + 1 }
  let s₁ : Session := { s with caches := s.caches.set run.cache c' }
  let s₂ : Session := { s₁ with groups := (s.groups.add (loadedPhp run.options l)).2 }
  let s₃ : Session :=
    { s₂ with caches := s₂.caches.set run.cache (c'.store t.identity (some place)) }
  have hbuild : s₁.perform (buildGroup t run.options) = (.ok place, s₂) :=
    perform_buildGroup_php hs hfiles hdir hl
  have hc₂ : s₂.caches.get? run.cache = some c' := Store.get?_set_self hc c'
  have hg₂ : s₂.groups.get? place = some (loadedPhp run.options l) := Store.get?_add_self s.groups _
  have hs₁ : Silent s₁ := hs
  have hs₃ : Silent s₃ := hs
  calc s.perform (loadGroup a r)
    _ = s.perform (obtainGroup run.cache t.identity (buildGroup t run.options)) := by
      rw [loadGroup_eq, target, Session.run, perform_bind_of_ok (perform_fetch_of_some ht),
        perform_bind_of_ok (perform_fetch_of_some hr)]
    _ = s₁.perform (do
          report .cache (.cacheMiss (.text t.identity.name))
          let built ← attempt (buildGroup t run.options)
          keepGroup run.cache t.identity built) := perform_obtainGroup_of_none hc hget _
    _ = s₁.perform (attempt (buildGroup t run.options) >>= keepGroup run.cache t.identity) :=
      perform_bind_of_ok (hs₁.perform_report _ _) _
    _ = s₂.perform (keepGroup run.cache t.identity (.ok place)) := by
      rw [perform_bind_of_ok (perform_attempt _ s₁), hbuild]
    _ = s₃.perform (do
          report .cache (.groupLoaded (.text t.identity.name) (.int (loadedPhp run.options l).size))
          return place) := perform_keepGroup_ok hc₂ hg₂
    _ = (.ok place, s₃) := perform_bind_of_ok (hs₃.perform_report _ _) _
    _ = _ := by
      simp only [s₃, s₂, s₁, Store.set_set]
      rfl

/-- The cache of a run after its first load. -/
def phpCache (g : Nat) : Template.Cache Nat :=
  { misses := 1 : Template.Cache Nat }.store Target.Php.identity (some g)

theorem get_phpCache (g : Nat) : (phpCache g).get Target.Php.identity = some g := by
  rw [Template.Cache.get_eq_held?, phpCache, Template.Cache.held?_store, if_pos rfl]

end Php

end Emission.Session
