import Emission.Proofs.Session.Catalog

/-!
# Calls of a session

The calls of a session, of every kind, and what they keep. A view of the session that overlooks records, files and
what is in the stores of targets, groups and settings (`Overlooks`) is the same after most calls as before. Main
statement: `keeps_act`. The calls left out are those that make caches, runs and drafts and those that set the journal
up; whether these keep what is shown depends on the view.
-/

namespace Emission.Session

open Target (Symbol)
open Template (GroupOptions)

variable {α β γ : Type} {s s' : Session} {view : Session → γ}

/-! ## Calls -/

/-- A call of a session: a step, a call about the catalog, or one of the others. -/
inductive Call
  | step (step : Step)
  | catalog (call : CatalogCall)
  | collides (target : Nat) (symbol : Symbol)
  | rename (target : Nat) (identifier : String)
  | createGroup (name : String) (dir : Option String) (options : Option Options)
  | openGroup (name : String) (dir : Option String) (o : GroupOptions)
  | openSettings (name : Option String)
  | loadSettings (name : Option String)
  | currentSettings
  | useSettings (place : Option Nat)
  | assign (place : Nat) (part field : String) (v : Value)
  | saveSettings (place : Nat)
  | applyLogging (place : Nat)
  | settingsOptions (place : Option Nat)
  | setUpJournal (level file : Value)
  | report (component : String) (e : Journal.Event)
  | log (component : String) (rank : Int) (message : String)
  | console
  | overview
  | setVariable (name : String) (value : Option String)

/-- What a call does. What it answers does not matter here. -/
def Call.act : Call → Action Unit
  | step st => do let _ ← st.act
  | catalog c => do let _ ← c.act
  | collides t symbol => do let _ ← Session.collides t symbol
  | rename t identifier => do let _ ← Session.rename t identifier
  | createGroup name dir options => do let _ ← addGroup (← Session.createGroup name dir options)
  | openGroup name dir o => do let _ ← addGroup (← Session.openGroup name dir o)
  | openSettings name => do let _ ← Session.openSettings name
  | loadSettings name => do let _ ← Session.loadSettings name
  | currentSettings => do let _ ← Session.currentSettings
  | useSettings place => Session.useSettings place
  | assign place part field v => Session.assign place part field v
  | saveSettings place => Session.saveSettings place
  | applyLogging place => do Session.applyLogging (← settingsAt place)
  | settingsOptions place => do let _ ← Session.settingsOptions place
  | setUpJournal level file => Session.setUpJournal level file
  | report component e => reportAs component e
  | log component rank message => logAs component rank message
  | console => do let _ ← Session.console
  | overview => do let _ ← Session.overview
  | setVariable name value => Session.setVariable name value

/-- An action that changes nothing of what this view of the session shows, whatever it comes to. -/
def Keeps (view : Session → γ) (a : Action α) : Prop := ∀ s : Session, view (s.perform a).2 = view s

theorem keeps_pure (x : α) : Keeps view (pure x) := fun _ => rfl

theorem keeps_throw (e : Fault) : Keeps view (throw e : Action α) := fun _ => rfl

theorem keeps_get : Keeps view get := fun _ => rfl

theorem keeps_ofExcept (r : Except Fault α) : Keeps view (MonadExcept.ofExcept r) := by
  intro s
  rw [perform_ofExcept]

theorem keeps_bind {a : Action α} {k : α → Action β} (ha : Keeps view a) (hk : ∀ x, Keeps view (k x)) :
    Keeps view (a >>= k) := by
  intro s
  rw [perform_bind]
  have hfirst : view (s.perform a).2 = view s := ha s
  revert hfirst
  rcases s.perform a with ⟨e | x, s₁⟩
  · exact id
  · exact (hk x s₁).trans

theorem keeps_map (f : α → β) {a : Action α} (ha : Keeps view a) : Keeps view (f <$> a) := by
  intro s
  rw [perform_map]
  exact ha s

theorem keeps_attempt {a : Action α} (ha : Keeps view a) : Keeps view (attempt a) := by
  intro s
  rw [perform_attempt]
  exact ha s

/-- What is done with the session that is there. -/
theorem keeps_get_bind {k : Session → Action α}
    (hk : ∀ s : Session, view (s.perform (k s)).2 = view s) : Keeps view (get >>= k) := by
  intro s
  rw [perform_bind_of_ok perform_get]
  exact hk s

theorem keeps_fetch (store : Session → Store α) (place : Nat) : Keeps view (fetch store place) := by
  refine keeps_bind keeps_get fun s => ?_
  split
  · exact keeps_pure _
  · exact fun _ => rfl

theorem keeps_find (name : CacheName) : Keeps view name.find := by
  cases name with
  | ofRun r => exact keeps_map _ (keeps_fetch _ r)
  | place p => exact keeps_pure p

theorem keeps_openGroup (name : String) (dir : Option String) (o : GroupOptions) :
    Keeps view (Session.openGroup name dir o) :=
  keeps_bind keeps_get fun _ => keeps_ofExcept _

/-! ## Views that overlook most of a session -/

/-- A view that does not show what most calls change: records, files, the console, what caches hold, and all that is
in the stores of targets, groups and settings. -/
class Overlooks (view : Session → γ) : Prop where
  stores : ∀ (s : Session) files environment targets catalog groups settings current,
    view { s with files, environment, targets, catalog, groups, settings, current } = view s
  caches : ∀ (s : Session) place c, view { s with caches := s.caches.set place c } = view s
  record : ∀ component severity message, Keeps view (recordAs component severity message)
  console : Keeps view console
  detach : ∀ (s : Session) files, view { s with journal := s.journal.detach files } = view s

variable [Overlooks view]

theorem keeps_record (component : Component) (severity : Severity) (message : String) :
    Keeps view (record component severity message) :=
  Overlooks.record component.name severity message

theorem keeps_report (component : Component) (e : Journal.Event) : Keeps view (report component e) :=
  Overlooks.record component.name e.severity e.message

theorem keeps_setCache (place : Nat) (c : Template.Cache Nat) : Keeps view (setCache place c) :=
  fun s => Overlooks.caches s place c

theorem keeps_setGroup (place : Nat) (g : Template.Group) : Keeps view (setGroup place g) :=
  fun s => Overlooks.stores s s.files s.environment s.targets s.catalog _ s.settings s.current

theorem keeps_addGroup (g : Template.Group) : Keeps view (addGroup g) :=
  fun s => Overlooks.stores s s.files s.environment s.targets s.catalog _ s.settings s.current

theorem keeps_addTarget (t : Target) : Keeps view (addTarget t) :=
  fun s => Overlooks.stores s s.files s.environment _ s.catalog s.groups s.settings s.current

theorem keeps_addSettings (t : Settings) : Keeps view (addSettings t) :=
  fun s => Overlooks.stores s s.files s.environment s.targets s.catalog s.groups _ s.current

theorem keeps_setSettings (place : Nat) (t : Settings) : Keeps view (setSettings place t) :=
  fun s => Overlooks.stores s s.files s.environment s.targets s.catalog s.groups _ s.current

theorem keeps_useSettings (place : Option Nat) : Keeps view (useSettings place) :=
  fun s => Overlooks.stores s s.files s.environment s.targets s.catalog s.groups s.settings _

theorem keeps_setVariable (name : String) (value : Option String) : Keeps view (setVariable name value) :=
  fun s => Overlooks.stores s s.files _ s.targets s.catalog s.groups s.settings s.current

theorem keeps_setFiles (files : Session → Files) : Keeps view (modify fun s => { s with files := files s }) :=
  fun s => Overlooks.stores s _ s.environment s.targets s.catalog s.groups s.settings s.current

theorem keeps_setCatalog (catalog : Session → Target.Catalog) :
    Keeps view (modify fun s => { s with catalog := catalog s }) :=
  fun s => Overlooks.stores s s.files s.environment s.targets _ s.groups s.settings s.current


/-! ## Templates -/

theorem keeps_createGroup (name : String) (dir : Option String) (options : Option Options) :
    Keeps view (Session.createGroup name dir options) := by
  have hrest (dir : Option String) (o : GroupOptions) : Keeps view (do
      let g ← Session.openGroup name dir o
      record .templates .debug
        ("Parsed " ++ toString g.size ++ " templates from " ++ g.dir.text)
      return g) :=
    keeps_bind (keeps_openGroup name dir o) fun g => keeps_bind (keeps_record _ _ _) fun _ => keeps_pure g
  cases dir with
  | some dir => exact keeps_bind (keeps_pure (some dir)) fun dir => hrest dir _
  | none =>
    cases options with
    | none => exact keeps_bind (keeps_pure none) fun dir => hrest dir _
    | some o => exact keeps_bind (keeps_ofExcept (optionDir name o)) fun dir => hrest dir _

theorem keeps_plainGroup (name : String) (dir : Option String) (options : Option Options) :
    Keeps view (plainGroup name dir options) :=
  keeps_bind (keeps_createGroup name dir options) keeps_addGroup

theorem keeps_buildGroup (t : Target) (o : Options) : Keeps view (buildGroup t o) :=
  keeps_bind (keeps_createGroup t.name none (some o)) fun _ =>
    keeps_bind (keeps_ofExcept _) fun _ => keeps_addGroup _

theorem keeps_obtainGroup (place : Nat) (i : Target.Identity) {make : Action Nat} (hmake : Keeps view make) :
    Keeps view (obtainGroup place i make) := by
  refine keeps_bind (keeps_fetch _ _) fun c => ?_
  dsimp only
  refine keeps_bind (keeps_setCache _ _) fun _ => ?_
  split
  · exact keeps_bind (keeps_report _ _) fun _ => keeps_pure _
  · -- the group is made before it is known whether it can be kept
    refine keeps_bind (keeps_report _ _) fun _ => keeps_bind (keeps_attempt hmake) fun _ => ?_
    refine keeps_bind (keeps_fetch _ _) fun _ => keeps_bind (keeps_setCache _ _) fun _ => ?_
    refine keeps_bind (keeps_ofExcept _) fun _ => keeps_bind (keeps_fetch _ _) fun _ => ?_
    exact keeps_bind (keeps_report _ _) fun _ => keeps_pure _

theorem keeps_loadGroup (a r : Nat) : Keeps view (loadGroup a r) :=
  keeps_bind (keeps_fetch _ _) fun t => keeps_bind (keeps_fetch _ _) fun run =>
    keeps_obtainGroup run.cache t.identity (keeps_buildGroup t run.options)

theorem keeps_inquiry (i : Inquiry) (name : CacheName) : Keeps view (i.act name) := by
  refine keeps_bind (keeps_find name) fun place => keeps_bind (keeps_fetch _ place) fun c => ?_
  cases i with
  | get i => exact keeps_pure _
  | contains i => exact keeps_pure _
  | invalidate i => exact keeps_bind (keeps_setCache _ _) fun _ => keeps_pure _
  | clear => exact keeps_bind (keeps_setCache _ _) fun _ => keeps_pure _
  | statistics => exact keeps_pure _

theorem keeps_register (g : Nat) (r : Template.Group.Registration) : Keeps view (Step.register g r).act := by
  cases r with
  | renderer mode f =>
    refine keeps_bind (keeps_bind (keeps_fetch _ _) fun made => ?_) fun _ => keeps_pure _
    exact keeps_bind (keeps_ofExcept _) fun _ => keeps_setGroup _ _
  | constant name v =>
    exact keeps_bind (keeps_bind (keeps_fetch _ _) fun _ => keeps_setGroup _ _) fun _ => keeps_pure _

/-! ## Files -/

theorem keeps_putFile (name : String) (c : Files.Content) : Keeps view (putFile name c) := by
  refine keeps_get_bind fun s => ?_
  rw [perform_bind, perform_ofExcept]
  cases s.files.place (.ofText name) c with
  | error e => rfl
  | ok files => exact keeps_setFiles (fun _ => files) s

theorem keeps_removeFile (name : String) : Keeps view (removeFile name) := by
  refine keeps_get_bind fun s => ?_
  rw [perform_bind, perform_ofExcept]
  cases s.files.remove (.ofText name) with
  | error e => rfl
  | ok files => exact (keeps_setFiles (fun _ => files) _).trans (Overlooks.detach s files)

/-! ## Targets -/

theorem keeps_registerTarget (place : Nat) (replace : Bool) : Keeps view (Session.register place replace) := by
  refine keeps_bind (keeps_fetch _ place) fun t => keeps_get_bind fun s => ?_
  rcases s.catalog.register place t replace with ⟨added, catalog⟩
  have hset : view { s with catalog } = view s := keeps_setCatalog (fun _ => catalog) s
  cases added with
  | true => exact (keeps_report _ _ _).trans hset
  | false => exact (keeps_record _ _ _ _).trans hset

theorem keeps_collides (place : Nat) (symbol : Symbol) : Keeps view (Session.collides place symbol) := by
  refine keeps_bind (keeps_fetch _ place) fun t => keeps_bind (keeps_ofExcept _) fun found => ?_
  cases found with
  | some s => exact keeps_bind (keeps_report _ _) fun _ => keeps_pure true
  | none => exact keeps_pure false

theorem keeps_rename (place : Nat) (identifier : String) : Keeps view (Session.rename place identifier) :=
  keeps_bind (keeps_fetch _ place) fun _ => keeps_bind (keeps_collides _ _) fun _ => keeps_pure _

theorem keeps_catalogCall (call : CatalogCall) : Keeps view call.act := by
  cases call with
  | add t => exact keeps_map _ (keeps_addTarget t)
  | register p replace =>
    exact keeps_bind (keeps_fetch _ p) fun t => keeps_map _ (keeps_registerTarget p replace)
  | unregister name => exact keeps_map _ (keeps_setCatalog fun s => (s.catalog.unregister name).2)
  | find name =>
    exact keeps_map _ (keeps_bind keeps_get fun s => keeps_bind (keeps_ofExcept _) fun _ => keeps_pure _)
  | isRegistered name => exact keeps_bind keeps_get fun s => keeps_pure _
  | names => exact keeps_bind keeps_get fun s => keeps_pure _
  | describe => exact keeps_map _ (keeps_bind keeps_get fun s => keeps_ofExcept _)
  | builtin =>
    refine keeps_bind (keeps_bind keeps_get fun s => ?_) fun _ => keeps_pure _
    split
    · refine keeps_bind (keeps_addTarget _) fun place => ?_
      exact keeps_bind (keeps_registerTarget place false) fun _ => keeps_pure _
    · exact keeps_pure _

/-! ## Settings -/

theorem keeps_readSettings (name : Option String) : Keeps view (readSettings name) := by
  refine keeps_bind keeps_get fun s => ?_
  dsimp only
  split
  · exact keeps_bind (keeps_record _ _ _) fun _ => keeps_bind (keeps_pure _) fun _ => keeps_ofExcept _
  · exact keeps_bind (keeps_record _ _ _) fun _ => keeps_bind (keeps_pure _) fun _ => keeps_ofExcept _
  · exact keeps_bind (keeps_record _ _ _) fun _ => keeps_bind (keeps_pure _) fun _ => keeps_ofExcept _
  · exact keeps_bind (keeps_throw _) fun _ => keeps_ofExcept _

theorem keeps_openSettings (name : Option String) : Keeps view (Session.openSettings name) :=
  keeps_bind (keeps_readSettings name) keeps_addSettings

theorem keeps_currentSettings : Keeps view Session.currentSettings := by
  refine keeps_bind keeps_get fun s => ?_
  split
  · exact keeps_pure _
  · refine keeps_bind (keeps_openSettings none) fun place => ?_
    exact keeps_bind (keeps_useSettings (some place)) fun _ => keeps_pure _

theorem keeps_saveSettings (place : Nat) : Keeps view (Session.saveSettings place) := by
  refine keeps_bind (keeps_fetch _ place) fun t => keeps_get_bind fun s => ?_
  rw [perform_bind, perform_ofExcept]
  cases t.save s.files with
  | error e => rfl
  | ok files => exact (keeps_record _ _ _ _).trans (keeps_setFiles (fun _ => files) s)

theorem keeps_settingsOptions (place : Option Nat) : Keeps view (Session.settingsOptions place) := by
  have hrest (place : Nat) : Keeps view (do MonadExcept.ofExcept (optionsOf (← settingsAt place))) :=
    keeps_bind (keeps_fetch _ place) fun _ => keeps_ofExcept _
  cases place with
  | some place => exact keeps_bind (keeps_pure place) hrest
  | none => exact keeps_bind keeps_currentSettings hrest

theorem keeps_overview : Keeps view Session.overview := by
  refine keeps_bind keeps_currentSettings fun place => keeps_bind (keeps_fetch _ place) fun t => ?_
  exact keeps_bind (keeps_bind keeps_get fun s => keeps_ofExcept _) fun _ => keeps_pure _

/-! ## Every call -/

/-- The step makes a cache, or it makes or changes a run or a draft. -/
def Step.Makes : Step → Prop
  | openCache | createRun .. | openDraft | changeDraft .. | buildRun _ => True
  | _ => False

theorem keeps_step (step : Step) (hstep : ¬ step.Makes) : Keeps view step.act := by
  cases step with
  | addTarget t => exact keeps_map _ (keeps_addTarget t)
  | openCache => exact absurd trivial hstep
  | createRun grammar options metadata => exact absurd trivial hstep
  | openDraft => exact absurd trivial hstep
  | changeDraft d c => exact absurd trivial hstep
  | buildRun d => exact absurd trivial hstep
  | load a r => exact keeps_map _ (keeps_loadGroup a r)
  | obtain name i dir options =>
    exact keeps_bind (keeps_find name) fun place =>
      keeps_map _ (keeps_obtainGroup place i (keeps_plainGroup i.name dir options))
  | inquire name i => exact keeps_inquiry i name
  | register g r => exact keeps_register g r
  | use g u => exact keeps_bind (keeps_fetch _ g) fun _ => keeps_ofExcept _
  | putFile name c => exact keeps_bind (keeps_putFile name c) fun _ => keeps_pure _
  | makeDirectory name => exact keeps_bind (keeps_setFiles _) fun _ => keeps_pure _
  | removeFile name => exact keeps_bind (keeps_removeFile name) fun _ => keeps_pure _

/-- The call is a step that makes a cache, or makes or changes a run or a draft. -/
def Call.Makes : Call → Prop
  | step st => st.Makes
  | _ => False

/-- The call is one that sets the journal up, if it gets that far. -/
def Call.SetsUp : Call → Prop
  | loadSettings _ | applyLogging _ | setUpJournal .. => True
  | _ => False

/-- A call that makes no cache, run or draft and does not set the journal up keeps what is shown. -/
theorem keeps_act (call : Call) (hmakes : ¬ call.Makes) (hsetsUp : ¬ call.SetsUp) : Keeps view call.act := by
  -- calls that only add an object or report do not touch the view
  have hmade (g : Template.Group) : Keeps view (do let _ ← addGroup g) :=
    keeps_bind (keeps_addGroup g) fun _ => keeps_pure ()
  cases call with
  | step st => exact keeps_bind (keeps_step st hmakes) fun _ => keeps_pure ()
  | catalog c => exact keeps_bind (keeps_catalogCall c) fun _ => keeps_pure ()
  | collides t symbol => exact keeps_bind (keeps_collides t symbol) fun _ => keeps_pure ()
  | rename t identifier => exact keeps_bind (keeps_rename t identifier) fun _ => keeps_pure ()
  | createGroup name dir options => exact keeps_bind (keeps_createGroup name dir options) hmade
  | openGroup name dir o => exact keeps_bind (keeps_openGroup name dir o) hmade
  | openSettings name => exact keeps_bind (keeps_openSettings name) fun _ => keeps_pure ()
  | loadSettings name => exact absurd trivial hsetsUp
  | currentSettings => exact keeps_bind keeps_currentSettings fun _ => keeps_pure ()
  | useSettings place => exact keeps_useSettings place
  | assign place part field v => exact keeps_bind (keeps_fetch _ place) fun _ => keeps_setSettings _ _
  | saveSettings place => exact keeps_saveSettings place
  | applyLogging place => exact absurd trivial hsetsUp
  | settingsOptions place => exact keeps_bind (keeps_settingsOptions place) fun _ => keeps_pure ()
  | setUpJournal level file => exact absurd trivial hsetsUp
  | report component e => exact Overlooks.record component e.severity e.message
  | log component rank message =>
    refine keeps_bind keeps_get fun s => ?_
    split
    · exact keeps_bind (keeps_throw _) fun _ => Overlooks.record component ⟨rank⟩ message
    · exact Overlooks.record component ⟨rank⟩ message
  | console => exact keeps_bind Overlooks.console fun _ => keeps_pure ()
  | overview => exact keeps_bind keeps_overview fun _ => keeps_pure ()
  | setVariable name value => exact keeps_setVariable name value

end Emission.Session
