import Emission.Proofs.Session.Actions
import Emission.Proofs.Settings
import Emission.Session.Configuration

/-!
# Settings of a session

What reading and saving settings come to. Main statements: `openSettings_of_file`, settings are made of what a file
gives, whatever reads it, unless something else than a dictionary is where one is looked for or something goes wrong
that nothing makes up for; and `openSettings_of_saved` and `openSettings_of_savedYaml`, settings that are saved as
JSON or as YAML are read again as they were.
-/

namespace Emission.Session

open Settings (fields savedLines)

variable {s : Session}

/-! ## Reading -/

section Open

variable {name : Option String} {file : Files.Path} {readers : Settings.Readers}

/-- What a file gives is recorded. Then settings are made of it and added, or that fails. -/
theorem perform_openSettings_of_gives (hfile : Settings.fileOf s.files name = file) {found : Option Value}
    (h : Settings.Gives readers s.files file found) :
    ∃ m, s.perform (openSettings name readers) =
      match Settings.ofValue s.environment file (found.getD (.dict [])) with
      | .error e => (.error e, s.recorded [m])
      | .ok t => (.ok s.settings.next, { s.recorded [m] with settings := (s.settings.add t).2 }) := by
  -- whatever was found, one message is recorded and then the document is read as settings
  have hread (m : Message) (v : Value) : s.perform (do
      let t ← (do
        record m.1 m.2.1 m.2.2
        let v ← pure v
        MonadExcept.ofExcept (Settings.ofValue s.environment file v))
      addSettings t) =
        match Settings.ofValue s.environment file v with
        | .error e => (.error e, s.recorded [m])
        | .ok t => (.ok s.settings.next, { s.recorded [m] with settings := (s.settings.add t).2 }) := by
    rw [bind_assoc, perform_bind_of_ok (perform_record s _ _ _), pure_bind, perform_bind, perform_ofExcept]
    cases Settings.ofValue s.environment file v <;> rfl
  have hload := h.load
  subst hfile
  rw [openSettings, readSettings, bind_assoc, perform_bind_of_ok perform_get]
  dsimp only
  cases found with
  | some v =>
    rw [show Settings.load s.files _ readers = _ from hload]
    exact ⟨_, hread (.settings, .info, _) v⟩
  | none =>
    rcases hload with hload | hload
    · rw [hload]
      exact ⟨_, hread (.settings, .debug, _) _⟩
    · rw [hload]
      exact ⟨_, hread (.settings, .error, _) _⟩

/-- A document that is loaded is what the file gives. -/
theorem gives_of_load {v : Value} (hload : Settings.load s.files file readers = .read v) :
    Settings.Gives readers s.files file (some v) := by
  obtain ⟨found, h⟩ | ⟨e, h⟩ := Settings.gives_or_breaks readers s.files file
  · have hfound := h.load
    cases found with
    | some w =>
      obtain rfl := Settings.Loaded.read.inj (hload.symm.trans hfound)
      exact h
    | none => rcases hfound with hfound | hfound <;> cases hload.symm.trans hfound
  · cases hload.symm.trans h.load

theorem perform_openSettings_of_ok (hfile : Settings.fileOf s.files name = file) {v : Value}
    (hload : Settings.load s.files file = .read v) {t : Settings}
    (hvalue : Settings.ofValue s.environment file v = .ok t) :
    ∃ m, s.perform (openSettings name) =
      (.ok s.settings.next, { s.recorded [m] with settings := (s.settings.add t).2 }) := by
  obtain ⟨m, hopen⟩ := perform_openSettings_of_gives hfile (gives_of_load hload)
  exact ⟨m, by rw [hopen, Option.getD_some, hvalue]⟩

end Open

/-- What is recorded of settings that are saved. -/
def savedMessage (t : Settings) : Message :=
  (.settings, .info, "Configuration saved to " ++ t.file.text)

/-- Saving the settings at a place writes this text to their file, and then it is recorded that it was. The file
holds the text unless that record goes to the very file as well. -/
def Saves (s : Session) (place : Nat) (t : Settings) (text : String) : Prop :=
  ∃ written, t.save s.files = .ok written ∧ written.content? t.file = some (.text text) ∧
    s.perform (saveSettings place) =
      (.ok (), ({ s with files := written } : Session).recorded [savedMessage t]) ∧
    (¬s.journal.WritesTo s.files .info t.file →
      (s.perform (saveSettings place)).2.files.content? t.file = some (.text text))

theorem saves_of_spot? {place : Nat} {t : Settings} (ht : s.settings.get? place = some t)
    (hplace : ∃ here, s.files.spot? t.file = some here) : Saves s place t t.fileText := by
  obtain ⟨written, hsave⟩ := Settings.exists_save hplace
  obtain ⟨here, hhere⟩ := hplace
  have hwritten := Settings.written_of_save hsave hhere
  have hperform : s.perform (saveSettings place) =
      (.ok (), ({ s with files := written } : Session).recorded [savedMessage t]) := by
    rw [saveSettings, settingsAt, perform_bind_of_ok (perform_fetch_of_some ht),
      perform_bind_of_ok perform_get, hsave, perform_bind_of_ok (perform_ofExcept _ s)]
    exact perform_record { s with files := written } _ _ _
  refine ⟨written, hsave, hwritten.content, hperform, fun hquiet => ?_⟩
  have hsent := sent_recorded { s with files := written } (savedMessage t)
  rw [hperform]
  refine (hsent.content_eq t.file fun hwrites => hquiet ?_).trans hwritten.content
  exact (Journal.writesTo_congr hwritten.spot_eq s.journal .info t.file).mp hwrites

/-- Settings of scalars that are saved as JSON. The text has one line for each field, and as long as the file holds
it, settings that are read from the file are those that were saved, unless variables override them, and saving
them again writes the same text. -/
theorem openSettings_of_saved {place : Nat} {t : Settings} (ht : s.settings.get? place = some t)
    (hjson : Settings.formatOf t.file = .json) (hscalars : ∀ f ∈ fields, Settings.Scalar (f.get t))
    (hplace : ∃ here, s.files.spot? t.file = some here) :
    let text := "\n".intercalate t.savedLines
    Saves s place t text ∧
      ∀ (later : Session) (name : Option String), later.files.content? t.file = some (.text text) →
        Settings.fileOf later.files name = t.file →
        (∀ watched ∈ Settings.watchedNames, Settings.override? later.environment watched = none) →
        ∃ again, later.perform (openSettings name) = (.ok later.settings.next, again) ∧
          again.settings.get? later.settings.next = some t ∧
          Saves again later.settings.next t text := by
  intro text
  have htext : t.fileText = text := by
    rw [Settings.fileText, hjson]
    exact Settings.write_toValue hscalars
  refine ⟨htext ▸ saves_of_spot? ht hplace, fun later name hcontent hfile henv => ?_⟩
  have hload : Settings.load later.files t.file = .read t.toValue := by
    refine Settings.load_of_write hjson (Settings.plain_toValue hscalars) ?_
    rw [hcontent, Settings.write_toValue hscalars]
  obtain ⟨m, hopen⟩ := perform_openSettings_of_ok hfile hload (Settings.ofValue_toValue henv t)
  have hagain : ((later.settings.add t).2).get? later.settings.next = some t :=
    Store.get?_add_self later.settings t
  obtain ⟨here, hhere⟩ := Files.exists_spot? hcontent
  refine ⟨_, hopen, hagain, htext ▸ saves_of_spot? hagain ⟨here, ?_⟩⟩
  exact ((sent_recorded later m).spot_eq t.file).trans hhere

/-- Settings with nothing, truth values and texts that are written with escapes. -/
def spelledSettings : Settings :=
  { file := .ofText "c.json", level := .text "\u00e9\n", fileLogging := .none, logFile := .text "a\"b",
    templateDir := .text "", trimBlocks := .bool false, defaultTarget := .text "😀" }

/-- Nothing but the console takes records, so the file is read as it was saved. -/
theorem openSettings_of_saved_spelled :
    let s : Session := { initial with settings := ⟨[spelledSettings]⟩ }
    let later := (s.perform (saveSettings 0)).2
    s.settings.get? 0 = some spelledSettings ∧ Settings.formatOf spelledSettings.file = .json ∧
      (∀ f ∈ fields, Settings.Scalar (f.get spelledSettings)) ∧
      (∃ here, s.files.spot? spelledSettings.file = some here) ∧
      ∃ again, later.perform (openSettings (some "c.json")) = (.ok 1, again) ∧
        again.settings.get? 1 = some spelledSettings := by
  intro s later
  have hscalars : ∀ f ∈ fields, Settings.Scalar (f.get spelledSettings) := by
    simp only [fields, List.forall_mem_cons]
    exact ⟨trivial, trivial, trivial, trivial, trivial, trivial, trivial, trivial, trivial, List.forall_mem_nil _⟩
  have hplace : ∃ here, s.files.spot? spelledSettings.file = some here := ⟨⟨.working, ["c.json"]⟩, rfl⟩
  have ht : s.settings.get? 0 = some spelledSettings := rfl
  obtain ⟨⟨written, -, -, hperform, hkept⟩, hreload⟩ := openSettings_of_saved ht rfl hscalars hplace
  have hlater : later = ({ s with files := written } : Session).recorded [savedMessage spelledSettings] :=
    congrArg Prod.snd hperform
  have hquiet : ¬s.journal.WritesTo s.files .info spelledSettings.file := by
    rintro ⟨-, h, hh, -, path, hsink, -⟩
    obtain rfl := List.mem_singleton.mp hh
    cases hsink
  have henv : later.environment = [] := hlater ▸ rfl
  have hnext : later.settings.next = 1 := hlater ▸ rfl
  obtain ⟨again, hopen, hagain, -⟩ := hreload later (some "c.json") (hkept hquiet) rfl (by
    rw [henv]
    exact fun _ _ => rfl)
  rw [hnext] at hopen hagain
  exact ⟨ht, rfl, hscalars, hplace, again, hopen, hagain⟩

/-- Settings that are read from their file as they were saved can be saved again. -/
theorem reopens_of_load {later : Session} {name : Option String} {t : Settings}
    (hfile : Settings.fileOf later.files name = t.file)
    (henv : ∀ watched ∈ Settings.watchedNames, Settings.override? later.environment watched = none)
    (hload : Settings.load later.files t.file = .read t.toValue)
    (hplace : ∃ here, later.files.spot? t.file = some here) :
    ∃ again, later.perform (openSettings name) = (.ok later.settings.next, again) ∧
      again.settings.get? later.settings.next = some t ∧ Saves again later.settings.next t t.fileText := by
  obtain ⟨m, hopen⟩ := perform_openSettings_of_ok hfile hload (Settings.ofValue_toValue henv t)
  have hagain : ((later.settings.add t).2).get? later.settings.next = some t :=
    Store.get?_add_self later.settings t
  obtain ⟨here, hhere⟩ := hplace
  refine ⟨_, hopen, hagain, saves_of_spot? hagain ⟨here, ?_⟩⟩
  exact ((sent_recorded later m).spot_eq t.file).trans hhere

/-- Settings of scalars that are saved as YAML. As long as the file holds the text, settings that are read from the
file are those that were saved, each text and each truth value as it was, unless variables override them, and saving
them again writes the same text. -/
theorem openSettings_of_savedYaml {place : Nat} {t : Settings} (ht : s.settings.get? place = some t)
    (hyaml : Settings.formatOf t.file = .yaml) (hscalars : ∀ f ∈ fields, Settings.Scalar (f.get t))
    (hplace : ∃ here, s.files.spot? t.file = some here) :
    let text := Yaml.write t.toValue
    Saves s place t text ∧
      ∀ (later : Session) (name : Option String), later.files.content? t.file = some (.text text) →
        Settings.fileOf later.files name = t.file →
        (∀ watched ∈ Settings.watchedNames, Settings.override? later.environment watched = none) →
        ∃ again, later.perform (openSettings name) = (.ok later.settings.next, again) ∧
          again.settings.get? later.settings.next = some t ∧
          Saves again later.settings.next t text := by
  intro text
  have htext : t.fileText = text := by
    rw [Settings.fileText, hyaml]
    rfl
  refine ⟨htext ▸ saves_of_spot? ht hplace, fun later name hcontent hfile henv => ?_⟩
  have hload : Settings.load later.files t.file = .read t.toValue :=
    Settings.load_of_writeYaml hyaml (Settings.plain_toValue hscalars) (Settings.isBlock_toValue hscalars) hcontent
  exact htext ▸ reopens_of_load hfile henv hload (Files.exists_spot? hcontent)

/-- Settings of texts that look like other values, or go over lines. -/
def disguisedSettings : Settings :=
  { file := .ofText "c.YAML", level := .text "yes", fileLogging := .none, logFile := .text "a: b # c\n\n edges ",
    templateDir := .text "null", trimBlocks := .bool false, lstripBlocks := .text "1_000",
    keepTrailingNewline := .text "2001-01-01", defaultTarget := .text "",
    escapeMode := .text ("".pushn 'w' 81 ++ " \u00e9 " ++ "".pushn 'w' 81) }

/-- Nothing but the console takes records, so the file is read as it was saved. -/
theorem openSettings_of_savedYaml_disguised :
    let s : Session := { initial with settings := ⟨[disguisedSettings]⟩ }
    let later := (s.perform (saveSettings 0)).2
    s.settings.get? 0 = some disguisedSettings ∧ Settings.formatOf disguisedSettings.file = .yaml ∧
      (∀ f ∈ fields, Settings.Scalar (f.get disguisedSettings)) ∧
      (∃ here, s.files.spot? disguisedSettings.file = some here) ∧
      ∃ again, later.perform (openSettings (some "c.YAML")) = (.ok 1, again) ∧
        again.settings.get? 1 = some disguisedSettings := by
  intro s later
  have hscalars : ∀ f ∈ fields, Settings.Scalar (f.get disguisedSettings) := by
    simp only [fields, List.forall_mem_cons]
    exact ⟨trivial, trivial, trivial, trivial, trivial, trivial, trivial, trivial, trivial, List.forall_mem_nil _⟩
  have hyaml : Settings.formatOf disguisedSettings.file = .yaml := by decide
  have hplace : ∃ here, s.files.spot? disguisedSettings.file = some here := ⟨⟨.working, ["c.YAML"]⟩, rfl⟩
  have ht : s.settings.get? 0 = some disguisedSettings := rfl
  obtain ⟨⟨written, -, -, hperform, hkept⟩, hreload⟩ := openSettings_of_savedYaml ht hyaml hscalars hplace
  have hlater : later = ({ s with files := written } : Session).recorded [savedMessage disguisedSettings] :=
    congrArg Prod.snd hperform
  have hquiet : ¬s.journal.WritesTo s.files .info disguisedSettings.file := by
    rintro ⟨-, h, hh, -, path, hsink, -⟩
    obtain rfl := List.mem_singleton.mp hh
    cases hsink
  have henv : later.environment = [] := hlater ▸ rfl
  have hnext : later.settings.next = 1 := hlater ▸ rfl
  obtain ⟨again, hopen, hagain, -⟩ := hreload later (some "c.YAML") (hkept hquiet) rfl (by
    rw [henv]
    exact fun _ _ => rfl)
  rw [hnext] at hopen hagain
  exact ⟨ht, hyaml, hscalars, hplace, again, hopen, hagain⟩

end Emission.Session
