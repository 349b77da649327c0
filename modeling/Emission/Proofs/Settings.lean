import Emission.Proofs.Fault
import Emission.Proofs.Files
import Emission.Proofs.Json.Document
import Emission.Proofs.Yaml.Document
import Emission.Settings

/-!
# What settings are read as

Each field of settings is under one key of one section of the document, has a default and may be overridden by a
variable. Main statements: `ofValue_eq`, settings are made of any document but one that has something else than a
dictionary where a dictionary is looked for; `ofValue_toValue`, they are made again of the document that they are
saved as; and `write_toValue`, the lines of its JSON text.
-/

namespace Emission.Settings

open Files (Path Content)

variable {env : Environment} {file : Path} {v : Value} {t : Settings}

/-! ## Fields -/

/-- Where a field is in a document, what it is if it is not there, and the variable that overrides it. -/
structure Field where
  get : Settings → Value
  part : String
  key : String
  default : Value
  override : Option String

def fields : List Field :=
  [⟨level, "logging", "level", .text "INFO", some "TARGETKIT_LOG_LEVEL"⟩,
   ⟨fileLogging, "logging", "enable_file_logging", .bool false, none⟩,
   ⟨logFile, "logging", "log_file", .text "targetkit.log", none⟩,
   ⟨templateDir, "templates", "template_dir", .none, some "TARGETKIT_TEMPLATE_DIR"⟩,
   ⟨trimBlocks, "templates", "trim_blocks", .bool true, none⟩,
   ⟨lstripBlocks, "templates", "lstrip_blocks", .bool true, none⟩,
   ⟨keepTrailingNewline, "templates", "keep_trailing_newline", .bool true, none⟩,
   ⟨defaultTarget, "generation", "default_target", .text "Php", some "TARGETKIT_DEFAULT_TARGET"⟩,
   ⟨escapeMode, "generation", "escape_mode", .text "java-escape", none⟩]

/-- The sections of a document. -/
def parts : List String := ["logging", "templates", "generation"]

/-- The entries of a section; one that is no dictionary has none. -/
def sectionEntries (document : List (Value × Value)) (part : String) : List (Value × Value) :=
  match Value.findText? part document with
  | some (.dict es) => es
  | _ => []

/-- The entries of a section of a document; a document that is no dictionary has no sections. -/
def entriesAt (v : Value) (part : String) : List (Value × Value) :=
  match v with
  | .dict document => sectionEntries document part
  | _ => []

/-- What a field is to be: what its variable says, or else what the document says, or else the default. -/
def Field.expected (f : Field) (env : Environment) (v : Value) : Value :=
  (f.override.bind (override? env)).getD (entry (entriesAt v f.part) f.key f.default)

/-- Settings are determined by their fields. -/
theorem eq_of_fields {t t' : Settings} (hfile : t.file = t'.file) (h : ∀ f ∈ fields, f.get t = f.get t') :
    t = t' := by
  simp only [fields, List.forall_mem_cons] at h
  obtain ⟨h₁, h₂, h₃, h₄, h₅, h₆, h₇, h₈, h₉, -⟩ := h
  cases t
  cases t'
  simp_all

/-! ## Reading a document -/

/-- The section of a document that is there and is no dictionary. -/
def unreadableSection? (es : List (Value × Value)) (part : String) : Option Value :=
  match Value.findText? part es with
  | none | some (.dict _) => none
  | some w => some w

/-- The document, or else its first section, that is no dictionary. A document that counts as false stands for
an empty one. -/
def unreadable? (v : Value) : Option Value :=
  if v.truthy then
    match v with
    | .dict es => parts.findSome? (unreadableSection? es)
    | w => some w
  else none

/-- The fault of looking for entries in a value that has none. -/
def noEntries (w : Value) : Fault := .misuse (.noAttribute w.kind "get")

theorem section?_eq (es : List (Value × Value)) (part : String) : section? es part =
    match unreadableSection? es part with
    | some w => .error (noEntries w)
    | none => .ok (sectionEntries es part) := by
  unfold section? unreadableSection? sectionEntries
  cases Value.findText? part es with
  | none => rfl
  | some w => cases w <;> rfl

theorem entriesAt_of_falsy (hv : v.truthy = false) (part : String) : entriesAt v part = [] := by
  unfold entriesAt
  cases v with
  | dict es =>
    cases es with
    | nil => rfl
    | cons e rest => exact absurd hv (by simp [Value.truthy, Value.length?])
  | _ => rfl

/-- A document whose sections are dictionaries gives each field as it is to be. -/
theorem ofValue_of_readable (env : Environment) (file : Path) {es : List (Value × Value)}
    (hdocument : entriesOf (if v.truthy then v else .dict []) = .ok es)
    (hv : ∀ part, entriesAt v part = sectionEntries es part)
    (hparts : ∀ part ∈ parts, unreadableSection? es part = none) :
    ∃ t, ofValue env file v = .ok t ∧ t.file = file ∧ ∀ f ∈ fields, f.get t = f.expected env v := by
  have hsection (part : String) (hpart : part ∈ parts) : section? es part = .ok (entriesAt v part) := by
    rw [section?_eq, hparts part hpart, hv]
  simp only [ofValue, hdocument, hsection "logging" (by decide), hsection "templates" (by decide),
    hsection "generation" (by decide), ok_bind]
  refine ⟨_, rfl, rfl, ?_⟩
  simp only [fields, List.forall_mem_cons]
  exact ⟨rfl, rfl, rfl, rfl, rfl, rfl, rfl, rfl, rfl, List.forall_mem_nil _⟩

/-- The sections are looked for one after the other, and the first that is no dictionary is to blame. -/
theorem ofValue_of_unreadable (env : Environment) (file : Path) {es : List (Value × Value)} {w : Value}
    (hdocument : entriesOf (if v.truthy then v else .dict []) = .ok es)
    (hfirst : parts.findSome? (unreadableSection? es) = some w) :
    ofValue env file v = .error (noEntries w) := by
  simp only [parts, List.findSome?_cons, List.findSome?_nil] at hfirst
  simp only [ofValue, hdocument, ok_bind, section?_eq]
  cases hlogging : unreadableSection? es "logging" with
  | some w' =>
    rw [hlogging] at hfirst
    obtain rfl := Option.some.inj hfirst
    rfl
  | none =>
    cases htemplates : unreadableSection? es "templates" with
    | some w' =>
      rw [hlogging, htemplates] at hfirst
      obtain rfl := Option.some.inj hfirst
      rfl
    | none =>
      rw [hlogging, htemplates] at hfirst
      cases hgeneration : unreadableSection? es "generation" with
      | some w' =>
        rw [hgeneration] at hfirst
        obtain rfl := Option.some.inj hfirst
        rfl
      | none =>
        rw [hgeneration] at hfirst
        cases hfirst

/-- What a document gives: settings with each field as it is to be, or the fault of looking for entries in the
first part that is no dictionary. -/
theorem ofValue_eq (env : Environment) (file : Path) (v : Value) :
    match unreadable? v with
    | some w => ofValue env file v = .error (noEntries w)
    | none => ∃ t, ofValue env file v = .ok t ∧ t.file = file ∧
      ∀ f ∈ fields, f.get t = f.expected env v := by
  unfold unreadable?
  cases hv : v.truthy with
  | false =>
    refine ofValue_of_readable env file (by rw [hv]; rfl) (fun part => ?_) fun _ _ => rfl
    exact entriesAt_of_falsy hv part
  | true =>
    rw [if_pos rfl]
    cases v with
    | dict es =>
      dsimp only
      cases hfirst : parts.findSome? (unreadableSection? es) with
      | none =>
        exact ofValue_of_readable env file (by rw [hv]; rfl) (fun _ => rfl)
          (List.findSome?_eq_none_iff.mp hfirst)
      | some w => exact ofValue_of_unreadable env file (by rw [hv]; rfl) hfirst
    | _ =>
      simp only [ofValue, hv, if_true]
      rfl

/-! ## Settings that are saved -/

/-- Nothing, a truth value or a text. -/
def Scalar : Value → Prop
  | .none | .bool _ | .text _ => True
  | _ => False

theorem plain_of_scalar (h : Scalar v) : Json.Plain v := by
  cases v with
  | none | bool b | text s => trivial
  | _ => exact h.elim

/-- A scalar as it stands in a settings file. -/
def spelled (v : Value) : String := .ofList (Json.atomForm v)

/-- The lines of a settings file. -/
def savedLines (t : Settings) : List String :=
  ["\x7b",
   "  \"version\": \"1.0\",",
   "  \"description\": \"targetkit configuration\",",
   "  \"logging\": \x7b",
   "    \"level\": " ++ spelled t.level ++ ",",
   "    \"enable_file_logging\": " ++ spelled t.fileLogging ++ ",",
   "    \"log_file\": " ++ spelled t.logFile,
   "  \x7d,",
   "  \"templates\": \x7b",
   "    \"template_dir\": " ++ spelled t.templateDir ++ ",",
   "    \"trim_blocks\": " ++ spelled t.trimBlocks ++ ",",
   "    \"lstrip_blocks\": " ++ spelled t.lstripBlocks ++ ",",
   "    \"keep_trailing_newline\": " ++ spelled t.keepTrailingNewline,
   "  \x7d,",
   "  \"generation\": \x7b",
   "    \"default_target\": " ++ spelled t.defaultTarget ++ ",",
   "    \"escape_mode\": " ++ spelled t.escapeMode,
   "  \x7d",
   "\x7d"]

theorem form_of_scalar (h : Scalar v) (level : Nat) : Json.form level v = Json.atomForm v := by
  cases v with
  | none | bool b | text s => rfl
  | _ => exact h.elim

theorem plain_toValue (h : ∀ f ∈ fields, Scalar (f.get t)) : Json.Plain t.toValue := by
  have hplain := fun f hf => plain_of_scalar (h f hf)
  simp only [fields, List.forall_mem_cons] at hplain
  obtain ⟨h₁, h₂, h₃, h₄, h₅, h₆, h₇, h₈, h₉, -⟩ := hplain
  have key (k : String) : ∃ s, Value.text k = .text s := ⟨k, rfl⟩
  refine ⟨?_, key _, trivial, key _, trivial, key _, ⟨?_, key _, h₁, key _, h₂, key _, h₃, trivial⟩,
    key _, ⟨?_, key _, h₄, key _, h₅, key _, h₆, key _, h₇, trivial⟩,
    key _, ⟨?_, key _, h₈, key _, h₉, trivial⟩, trivial⟩
  · show (["version", "description", "logging", "templates", "generation"].map some).Nodup
    decide
  · show (["level", "enable_file_logging", "log_file"].map some).Nodup
    decide
  · show (["template_dir", "trim_blocks", "lstrip_blocks", "keep_trailing_newline"].map some).Nodup
    decide
  · show (["default_target", "escape_mode"].map some).Nodup
    decide

set_option maxRecDepth 2000 in
theorem write_toValue (h : ∀ f ∈ fields, Scalar (f.get t)) :
    Json.write t.toValue = "\n".intercalate t.savedLines := by
  simp only [fields, List.forall_mem_cons] at h
  obtain ⟨h₁, h₂, h₃, h₄, h₅, h₆, h₇, h₈, h₉, -⟩ := h
  refine String.toList_inj.mp ?_
  simp only [Json.write, String.toList_ofList, toValue, Json.form_dict, Json.entriesText,
    Json.entryForms, form_of_scalar h₁, form_of_scalar h₂, form_of_scalar h₃,
    form_of_scalar h₄, form_of_scalar h₅, form_of_scalar h₆, form_of_scalar h₇, form_of_scalar h₈,
    form_of_scalar h₉, List.append_assoc, List.cons_append, List.nil_append]
  simp only [savedLines, spelled, String.toList_intercalate, List.map_cons, List.map_nil,
    String.toList_append, String.toList_ofList, List.intercalate_cons_cons, List.intercalate_singleton,
    List.append_assoc]
  rfl

theorem fits_of_scalar (h : Scalar v) : Yaml.Fits 2 v := by
  have hwidth : 2 + 2 < Yaml.bestWidth := by decide
  cases v with
  | none | bool b | text s => exact hwidth
  | _ => exact h.elim

theorem isBlock_toValue (h : ∀ f ∈ fields, Scalar (f.get t)) : Yaml.IsBlock t.toValue := by
  have hfits := fun f hf => fits_of_scalar (h f hf)
  simp only [fields, List.forall_mem_cons] at hfits
  obtain ⟨h₁, h₂, h₃, h₄, h₅, h₆, h₇, h₈, h₉, -⟩ := hfits
  have hwidth : 0 + 2 < Yaml.bestWidth := by decide
  have filled {e : Value × Value} {es : List (Value × Value)} : e :: es ≠ [] := List.cons_ne_nil e es
  have key (k : String) (hk : Yaml.IsWord k) : ∃ s, Value.text k = .text s ∧ Yaml.IsWord s := ⟨k, rfl, hk⟩
  exact ⟨filled, key _ (by decide), hwidth, key _ (by decide), hwidth,
    key _ (by decide), ⟨filled, key _ (by decide), h₁, key _ (by decide), h₂, key _ (by decide), h₃, trivial⟩,
    key _ (by decide), ⟨filled, key _ (by decide), h₄, key _ (by decide), h₅, key _ (by decide), h₆,
      key _ (by decide), h₇, trivial⟩,
    key _ (by decide), ⟨filled, key _ (by decide), h₈, key _ (by decide), h₉, trivial⟩, trivial⟩

theorem unreadable?_toValue (t : Settings) : unreadable? t.toValue = none := rfl

theorem expected_toValue (henv : ∀ name ∈ watchedNames, override? env name = none) (t : Settings) :
    ∀ f ∈ fields, f.expected env t.toValue = f.get t := by
  simp only [watchedNames, List.forall_mem_cons] at henv
  obtain ⟨hlevel, htemplates, htarget, -⟩ := henv
  simp only [fields, List.forall_mem_cons]
  refine ⟨?_, rfl, rfl, ?_, rfl, rfl, rfl, ?_, rfl, List.forall_mem_nil _⟩
  · simp only [Field.expected, Option.bind_some, hlevel, Option.getD_none]
    rfl
  · simp only [Field.expected, Option.bind_some, htemplates, Option.getD_none]
    rfl
  · simp only [Field.expected, Option.bind_some, htarget, Option.getD_none]
    rfl

/-- Settings are made again of what they are saved as, unless variables override them. -/
theorem ofValue_toValue (henv : ∀ name ∈ watchedNames, override? env name = none) (t : Settings) :
    ofValue env t.file t.toValue = .ok t := by
  have hread := ofValue_eq env t.file t.toValue
  rw [unreadable?_toValue] at hread
  obtain ⟨t', hok, hfile, hfields⟩ := hread
  rw [hok, eq_of_fields hfile fun f hf => (hfields f hf).trans (expected_toValue henv t f hf)]

/-! ## Files of settings -/

/-- Settings can be saved where there is a file or may be one. -/
theorem exists_save {fs : Files} (h : ∃ here, fs.spot? t.file = some here) :
    ∃ fs', t.save fs = .ok fs' := by
  obtain ⟨here, hhere⟩ := h
  exact Files.exists_write hhere _

theorem written_of_save {fs fs' : Files} (h : t.save fs = .ok fs') {here : Files.Place}
    (hspot : fs.spot? t.file = some here) : Files.Written fs t.file (.text t.fileText) fs' :=
  Files.written_of_write h hspot

theorem load_of_content? {fs : Files} {s : String} (h : fs.content? file = some (.text s))
    (hs : '\r' ∉ s.toList) :
    load fs file = (Readers.standard (formatOf file) s).loaded := by
  have hread : fs.read file = .ok s := by
    rw [Files.read_of_content? h, Content.read_text hs]
    rfl
  simp only [load, Files.holds_of_content? h, hread]

/-- A JSON file that holds a plain value gives this value. -/
theorem load_of_write {fs : Files} (hjson : formatOf file = .json) (hv : Json.Plain v)
    (h : fs.content? file = some (.text (Json.write v))) : load fs file = .read v := by
  rw [load_of_content? h (Json.not_mem_write hv), hjson, Readers.standard, Json.read?_write hv]
  rfl

/-- So does a YAML file, if the value is a block. -/
theorem load_of_writeYaml {fs : Files} (hyaml : formatOf file = .yaml) (hplain : Json.Plain v) (hv : Yaml.IsBlock v)
    (h : fs.content? file = some (.text (Yaml.write v))) : load fs file = .read v := by
  rw [load_of_content? h (Yaml.not_mem_write hv), hyaml, Readers.standard, Yaml.read?_write hplain hv]
  rfl

/-- What a file gives: a document, or nothing if it is not there or cannot be read. -/
inductive Gives (readers : Readers) (fs : Files) (file : Path) : Option Value → Prop
  | missing (h : fs.holds file = .ok false) : Gives readers fs file none
  | unread {e : Fault} (hthere : fs.holds file = .ok true) (h : fs.read file = .error e)
      (he : e ≠ .outOfMemory) : Gives readers fs file none
  | refused {text : String} (hthere : fs.holds file = .ok true) (htext : fs.read file = .ok text)
      (h : readers (formatOf file) text = .refused) : Gives readers fs file none
  | document {text : String} {v : Value} (hthere : fs.holds file = .ok true) (htext : fs.read file = .ok text)
      (h : readers (formatOf file) text = .value v) : Gives readers fs file (some v)

/-- What nothing makes up for: that a file cannot be looked for, that there is no memory for its text, or that a
reader goes wrong. -/
inductive Breaks (readers : Readers) (fs : Files) (file : Path) : Fault → Prop
  | search {e : Fault} (h : fs.holds file = .error e) : Breaks readers fs file e
  | memory (hthere : fs.holds file = .ok true) (h : fs.read file = .error .outOfMemory) :
      Breaks readers fs file .outOfMemory
  | reader {text : String} {e : Fault} (hthere : fs.holds file = .ok true) (htext : fs.read file = .ok text)
      (h : readers (formatOf file) text = .fault e) : Breaks readers fs file e

theorem gives_or_breaks (readers : Readers) (fs : Files) (file : Path) :
    (∃ found, Gives readers fs file found) ∨ ∃ e, Breaks readers fs file e := by
  match hholds : fs.holds file with
  | .error e => exact .inr ⟨e, .search hholds⟩
  | .ok false => exact .inl ⟨none, .missing hholds⟩
  | .ok true =>
    cases hread : fs.read file with
    | error e =>
      by_cases he : e = .outOfMemory
      · exact .inr ⟨_, .memory hholds (he ▸ hread)⟩
      · exact .inl ⟨none, .unread hholds hread he⟩
    | ok text =>
      cases hreader : readers (formatOf file) text with
      | value v => exact .inl ⟨some v, .document hholds hread hreader⟩
      | refused => exact .inl ⟨none, .refused hholds hread hreader⟩
      | fault e => exact .inr ⟨e, .reader hholds hread hreader⟩

/-- What is given is loaded, and a file that gives nothing is missing or broken. -/
theorem Gives.load {readers : Readers} {fs : Files} {found : Option Value} (h : Gives readers fs file found) :
    match found with
    | some v => load fs file readers = .read v
    | none => load fs file readers = .missing ∨ load fs file readers = .broken := by
  cases h with
  | missing h => exact .inl (by rw [Settings.load, h])
  | unread hthere h he =>
    exact .inr (by simp only [Settings.load, hthere, h])
  | refused hthere htext h => exact .inr (by simp only [Settings.load, hthere, htext, h, Reading.loaded])
  | document hthere htext h => simp only [Settings.load, hthere, htext, h, Reading.loaded]

theorem Breaks.load {readers : Readers} {fs : Files} {e : Fault} (h : Breaks readers fs file e) :
    load fs file readers = .failed e := by
  cases h with
  | search h => simp only [Settings.load, h]
  | memory hthere h => simp only [Settings.load, hthere, h]
  | reader hthere htext h => simp only [Settings.load, hthere, htext, h, Reading.loaded]

end Emission.Settings
