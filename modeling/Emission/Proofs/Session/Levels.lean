import Emission.Entries
import Emission.Proofs.Session.Setup

/-!
# Levels by name

Which level a name stands for when the journal is set up, and which options show that everything is recorded. Every
text is the name of a level, as those that are not among the standard names stand for the level of informations, but
for two names that the journal knows as something else (`reservedNames`). Main statement: `setUpJournal_level`;
`setUpJournal_basic_format` shows one of the two.
-/

namespace Emission

namespace Journal

variable {name : String} {j : Journal} {fs : Files}

/-! ## Names -/

/-- The standard levels by their names. -/
def standardLevels : List (String × Nat) :=
  [("CRITICAL", 50), ("FATAL", 50), ("ERROR", 40), ("WARNING", 30), ("WARN", 30), ("INFO", 20), ("DEBUG", 10),
    ("NOTSET", 0)]

/-- The level of a name in upper case: that of informations, unless it is the name of another one. -/
def standardLevel (name : String) : Nat := (standardLevels.lookup name).getD 20

/-- Names in upper case of what the journal knows beside levels: how it writes records, and how these can be filled
in. -/
def reservedNames : List String := ["BASIC_FORMAT", "_STYLES"]

theorem levelNamed_of_notMem (h : name ∉ reservedNames) : levelNamed name = .ok (standardLevel name) := by
  unfold levelNamed
  split
  case h_9 => exact absurd (by decide) h
  case h_10 => exact absurd (by decide) h
  case h_11 =>
    have hnone : standardLevels.lookup name = none := by
      rw [List.lookup_eq_none_iff]
      simp only [standardLevels, List.forall_mem_cons, bne_iff_ne]
      refine ⟨‹_›, ‹_›, ‹_›, ‹_›, ‹_›, ‹_›, ‹_›, ‹_›, List.forall_mem_nil _⟩
    rw [standardLevel, hnone]
    rfl
  all_goals rfl

theorem levelNamed_of_mem (h : name ∈ reservedNames) : ∃ e, levelNamed name = .error e := by
  simp only [reservedNames, List.mem_cons, List.not_mem_nil, or_false] at h
  rcases h with rfl | rfl
  · exact ⟨_, rfl⟩
  · exact ⟨_, rfl⟩

/-- Only one name stands for the level at which everything is recorded. -/
theorem standardLevel_eq_debug_iff (name : String) :
    (standardLevel name : Int) = Severity.debug.rank ↔ name = "DEBUG" := by
  constructor
  · intro h
    cases hlookup : standardLevels.lookup name with
    | none =>
      rw [standardLevel, hlookup] at h
      exact absurd h (by decide)
    | some n =>
      rw [standardLevel, hlookup, Option.getD_some] at h
      have honly : ∀ e ∈ standardLevels, (e.2 : Int) = Severity.debug.rank → e.1 = "DEBUG" := by decide
      exact honly _ (Entries.mem_of_lookup hlookup) h
  · rintro rfl
    rfl

/-! ## Setting up -/

variable {level file : Value} {n : Nat}

theorem levelOf_text (level : String) : levelOf (.text level) = levelNamed (Text.upper level) := rfl

/-- Without a level nothing is set up. -/
theorem setup_of_error {e : Fault} (h : levelOf level = .error e) : j.setup fs level file = (.error e, j, fs) := by
  rw [setup, h]

theorem setup_of_ok (h : levelOf level = .ok n) (hstuck : ¬ j.IsStuck) :
    j.setup fs level .none =
      (.ok (), { j with level := n, handlers := [⟨.console, n⟩], propagates := false }, fs) := by
  rw [setup, h]
  simp only [closeAll_of_not_isStuck hstuck]
  rfl

/-- If a handler is stuck, the level is set all the same, and the handlers behind it stay. -/
theorem setup_of_stuck (h : levelOf level = .ok n) (hstuck : j.IsStuck) :
    j.setup fs level file =
      (.error .noSpace, { j with level := n, handlers := (closeAll j.handlers).2 }, fs) := by
  obtain ⟨rest, hclosed⟩ := closeAll_of_stuck hstuck
  rw [setup, h]
  simp only [hclosed]

/-- The level is set first, whatever becomes of the file. -/
theorem level_setup (h : levelOf level = .ok n) : (j.setup fs level file).2.1.level = n := by
  rw [setup, h]
  dsimp only
  split
  · rfl
  · split
    · rfl
    · rfl
    · split <;> rfl

end Journal

namespace Session

open Files (Path)
open Journal (levelOf reservedNames standardLevel)

/-- Settings whose level is a text show everything exactly if this is the name of the level for that. -/
theorem optionsOf_text {t : Settings} {level : String} (h : t.level = .text level) :
    ∃ o, optionsOf t = .ok o ∧ o.debugMode = .bool (decide (Text.upper level = "DEBUG")) := by
  rw [optionsOf, h]
  exact ⟨_, rfl, rfl⟩

/-- A text is taken for the name of a level in any case, and one that names none for that of informations: the journal
can be set up with it, and it has this level then, with one handler on the console. If a handler is stuck, closing
it fails once the level is set, and those behind it stay. Only two names are refused, and then nothing is changed. The
options that settings give show everything exactly if setting up the journal as these
say brings it to the level at which everything is recorded, whatever happens to the file that they may name. -/
theorem setUpJournal_level (level : String) :
    let name := Text.upper level
    (name ∉ reservedNames → ∀ s : Session,
      (¬ s.journal.IsStuck → s.perform (setUpJournal (.text level) .none) =
        (.ok (), { s with
          journal := { s.journal with
            level := standardLevel name, handlers := [⟨.console, standardLevel name⟩], propagates := false } })) ∧
      (s.journal.IsStuck → s.perform (setUpJournal (.text level) .none) =
        (.error .noSpace, { s with
          journal := { s.journal with
            level := standardLevel name, handlers := (Journal.closeAll s.journal.handlers).2 } }))) ∧
      (name ∈ reservedNames → ∃ e, ∀ (s : Session) (file : Value),
        s.perform (setUpJournal (.text level) file) = (.error e, s)) ∧
      ∀ t : Settings, t.level = .text level → ∃ o, optionsOf t = .ok o ∧
        (name ∉ reservedNames → ∀ s : Session,
          o.debugMode =
            .bool (decide (((s.perform (applyLogging t)).2.journal.level : Int) = Severity.debug.rank))) ∧
        (name ∈ reservedNames → o.debugMode = .bool false ∧
          ∃ e, ∀ s : Session, s.perform (applyLogging t) = (.error e, s)) := by
  intro name
  -- the level of a request depends on the text alone, not on the session
  have hlevel (h : name ∉ reservedNames) : levelOf (.text level) = .ok (standardLevel name) :=
    (Journal.levelOf_text level).trans (Journal.levelNamed_of_notMem h)
  have hrefused (h : name ∈ reservedNames) : ∃ e, ∀ (s : Session) (file : Value),
      s.perform (setUpJournal (.text level) file) = (.error e, s) := by
    obtain ⟨e, he⟩ := Journal.levelNamed_of_mem h
    refine ⟨e, fun s file => ?_⟩
    have hresult : (s.request (.text level) file).result s.journal = (.error e, s.journal, s.files) :=
      Journal.setup_of_error ((Journal.levelOf_text level).trans he)
    rw [perform_setUpJournal, hresult]
  refine ⟨fun h s => ⟨fun hstuck => ?_, fun hstuck => ?_⟩, hrefused, fun t ht => ?_⟩
  · have hresult : (s.request (.text level) .none).result s.journal = _ :=
      Journal.setup_of_ok (hlevel h) hstuck
    rw [perform_setUpJournal, hresult]
    rfl
  · have hresult : (s.request (.text level) .none).result s.journal = _ :=
      Journal.setup_of_stuck (hlevel h) hstuck
    rw [perform_setUpJournal, hresult]
    rfl
  · obtain ⟨o, ho, hdebug⟩ := optionsOf_text ht
    refine ⟨o, ho, fun h s => ?_, fun h => ⟨?_, ?_⟩⟩
    · have hset : (s.perform (applyLogging t)).2.journal.level = standardLevel name := by
        rw [applyLogging, ht, perform_setUpJournal]
        exact Journal.level_setup (hlevel h)
      rw [hdebug, hset]
      exact congrArg Value.bool (decide_eq_decide.mpr (Journal.standardLevel_eq_debug_iff name).symm)
    · -- the name that turns the mode on is not among those that are refused
      have hne : name ≠ "DEBUG" := fun heq => absurd (heq ▸ h) (by decide)
      rw [hdebug, decide_eq_false hne]
    · obtain ⟨e, he⟩ := hrefused h
      refine ⟨e, fun s => ?_⟩
      rw [applyLogging, ht]
      exact he s _

/-- Settings that name a level in another case, with a file for records. -/
def debugSettings : Settings where
  file := Path.ofText "settings.json"
  level := .text "dEbug"
  fileLogging := .bool true

/-- Both places take the name for that of the level at which everything is recorded. -/
theorem setUpJournal_level_debug :
    (initial.perform (setUpJournal (.text "dEbug") .none)).2.journal.level = 10 ∧
      (initial.perform (applyLogging debugSettings)).2.journal.level = 10 ∧
      (optionsOf debugSettings).map (·.debugMode) = .ok (.bool true) := by
  obtain ⟨hset, -, hsettings⟩ := setUpJournal_level "dEbug"
  obtain ⟨o, ho, hlike, -⟩ := hsettings debugSettings rfl
  have hname : Text.upper "dEbug" ∉ reservedNames := by decide
  have hlevel : (initial.perform (applyLogging debugSettings)).2.journal.level = 10 := rfl
  have hfree : ¬ initial.journal.IsStuck := by
    rintro ⟨h, hmem, hstuck⟩
    obtain rfl := List.mem_singleton.mp hmem
    cases hstuck
  refine ⟨?_, hlevel, ?_⟩
  · rw [(hset hname initial).1 hfree]
    rfl
  · rw [ho, Except.map, hlike hname initial, hlevel]
    rfl

/-- In lower case too, the name of the standard form of records is not taken for that of the level of informations. -/
theorem setUpJournal_basic_format :
    (initial.perform (setUpJournal (.text "basic_format") .none)).1 =
      .error (.unknownLevel "%(levelname)s:%(name)s:%(message)s") := by
  rfl

end Session

end Emission
