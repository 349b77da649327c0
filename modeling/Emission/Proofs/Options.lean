import Emission.Options
import Emission.Proofs.Fault
import Emission.Proofs.Value.Dictionary

/-!
# Options from dictionaries

Each option has a name, a default and a form that its values are brought into, and options that are made of a
dictionary are in this form. Main statement: `ofEntries_normal_form`, which says that such options are made again of
their own listing, that nothing but the names of the options counts in a dictionary, and what updating a dictionary
does to the options.
-/

namespace Emission.Options

open Value (Dictionary findText?)

variable {o p : Options} {d : List (Value × Value)}

/-! ## Forms -/

theorem asText_eq_self_iff (v : Value) : asText v = v ↔ ∃ s, v = .text s := by
  constructor
  · intro h
    exact ⟨v.display, h.symm⟩
  · rintro ⟨s, rfl⟩
    rfl

theorem asTextOrNone_eq_self_iff (v : Value) : asTextOrNone v = v ↔ v = .none ∨ ∃ s, v = .text s := by
  constructor
  · intro h
    cases v with
    | none => exact .inl rfl
    | _ => exact .inr ⟨_, h.symm⟩
  · rintro (rfl | ⟨s, rfl⟩) <;> rfl

theorem asTruth_eq_self_iff (v : Value) : asTruth v = v ↔ ∃ b, v = .bool b := by
  constructor
  · intro h
    exact ⟨v.truthy, h.symm⟩
  · rintro ⟨b, rfl⟩
    rfl

theorem asTextOrNone_asTextOrNone (v : Value) : asTextOrNone (asTextOrNone v) = asTextOrNone v := by
  cases v <;> rfl

/-! ## Fields -/

/-- An option: its name in a dictionary, the form of its values, and what it is if it is not mentioned. -/
structure Field where
  get : Options → Value
  name : String
  form : Value → Value
  default : Value

def fields : List Field :=
  [⟨defaultTarget, "default_target", asText, .text "Php"⟩,
   ⟨templateDir, "template_dir", asTextOrNone, .none⟩,
   ⟨escapeMode, "escape_mode", asText, .text "java-escape"⟩,
   ⟨trimBlocks, "trim_blocks", asTruth, .bool true⟩,
   ⟨lstripBlocks, "lstrip_blocks", asTruth, .bool true⟩,
   ⟨keepTrailingNewline, "keep_trailing_newline", asTruth, .bool true⟩,
   ⟨debugMode, "debug_mode", asTruth, .bool false⟩]

/-- Options are determined by their fields. -/
theorem eq_iff_fields : o = p ↔ ∀ f ∈ fields, f.get o = f.get p := by
  constructor
  · rintro rfl f -
    rfl
  · intro h
    simp only [fields, List.forall_mem_cons] at h
    obtain ⟨h₁, h₂, h₃, h₄, h₅, h₆, h₇, -⟩ := h
    cases o
    cases p
    simp_all

/-- Bringing a value into its form twice is the same as once, and every default is in the form. -/
theorem form_form {f : Field} (hf : f ∈ fields) :
    (∀ v, f.form (f.form v) = f.form v) ∧ f.form f.default = f.default := by
  revert f
  simp only [fields, List.forall_mem_cons]
  have htext : ∀ v, asText (asText v) = asText v := fun v => rfl
  have htruth : ∀ v, asTruth (asTruth v) = asTruth v := fun v => rfl
  exact ⟨⟨htext, rfl⟩, ⟨asTextOrNone_asTextOrNone, rfl⟩, ⟨htext, rfl⟩, ⟨htruth, rfl⟩, ⟨htruth, rfl⟩, ⟨htruth, rfl⟩,
    ⟨htruth, rfl⟩, List.forall_mem_nil _⟩

theorem get_ofEntries (d : List (Value × Value)) {f : Field} (hf : f ∈ fields) :
    f.get (ofEntries d) = ((findText? f.name d).map f.form).getD f.default := by
  revert f
  simp only [fields, List.forall_mem_cons]
  exact ⟨rfl, rfl, rfl, rfl, rfl, rfl, rfl, List.forall_mem_nil _⟩

/-- Every field is in the listing under its name. -/
theorem findText?_toEntries (o : Options) {f : Field} (hf : f ∈ fields) :
    findText? f.name o.toEntries = some (f.get o) := by
  revert f
  simp only [fields, List.forall_mem_cons]
  exact ⟨rfl, rfl, rfl, rfl, rfl, rfl, rfl, List.forall_mem_nil _⟩

theorem map_name_fields : fields.map (·.name) = names := rfl

/-! ## The normal form -/

/-- Two texts, a text or nothing, and four truth values. -/
structure Normal (o : Options) : Prop where
  defaultTarget : ∃ s, o.defaultTarget = .text s
  templateDir : o.templateDir = .none ∨ ∃ s, o.templateDir = .text s
  escapeMode : ∃ s, o.escapeMode = .text s
  trimBlocks : ∃ b, o.trimBlocks = .bool b
  lstripBlocks : ∃ b, o.lstripBlocks = .bool b
  keepTrailingNewline : ∃ b, o.keepTrailingNewline = .bool b
  debugMode : ∃ b, o.debugMode = .bool b

theorem normal_iff : o.Normal ↔ ∀ f ∈ fields, f.form (f.get o) = f.get o := by
  simp only [fields, List.forall_mem_cons, asText_eq_self_iff, asTextOrNone_eq_self_iff, asTruth_eq_self_iff]
  constructor
  · rintro ⟨h₁, h₂, h₃, h₄, h₅, h₆, h₇⟩
    exact ⟨h₁, h₂, h₃, h₄, h₅, h₆, h₇, List.forall_mem_nil _⟩
  · rintro ⟨h₁, h₂, h₃, h₄, h₅, h₆, h₇, -⟩
    exact ⟨h₁, h₂, h₃, h₄, h₅, h₆, h₇⟩

theorem normal_ofEntries (d : List (Value × Value)) : (ofEntries d).Normal := by
  refine normal_iff.mpr fun f hf => ?_
  obtain ⟨htwice, hdefault⟩ := form_form hf
  rw [get_ofEntries d hf]
  cases findText? f.name d with
  | none => exact hdefault
  | some v => exact htwice v

/-- Options are made again of their listing exactly if they are in normal form. -/
theorem ofEntries_toEntries_iff (o : Options) : ofEntries o.toEntries = o ↔ o.Normal := by
  rw [eq_iff_fields, normal_iff]
  refine forall₂_congr fun f hf => ?_
  rw [get_ofEntries _ hf, findText?_toEntries o hf]
  rfl

theorem checkText_eq_ok_iff {found : Option Value} :
    checkText found = .ok () ↔ ∀ v, found = some v → ∃ t, v.shown = .ok t := by
  cases found with
  | none => simp [checkText]
  | some v => cases hv : v.shown <;> simp [checkText, hv, Except.map]

/-- Options are made of a dictionary exactly if the values of those that are texts can be written out. -/
theorem fromDictionary_eq_ok_iff :
    fromDictionary d = .ok o ↔
      o = ofEntries d ∧ ∀ name ∈ textNames, ∀ v, findText? name d = some v → ∃ t, v.shown = .ok t := by
  rw [fromDictionary, bind_eq_ok_iff]
  constructor
  · rintro ⟨_, hforM, hmade⟩
    exact ⟨(Except.ok.inj hmade).symm, fun name hname => checkText_eq_ok_iff.mp (forM_eq_ok_iff.mp hforM name hname)⟩
  · rintro ⟨rfl, htexts⟩
    exact ⟨(), forM_eq_ok_iff.mpr fun name hname => checkText_eq_ok_iff.mpr (htexts name hname), rfl⟩

/-- Options in normal form can always be made of their listing. -/
theorem fromDictionary_toEntries (h : o.Normal) : fromDictionary o.toEntries = .ok o := by
  refine fromDictionary_eq_ok_iff.mpr ⟨((ofEntries_toEntries_iff o).mpr h).symm, ?_⟩
  obtain ⟨target, htarget⟩ := h.defaultTarget
  obtain ⟨mode, hmode⟩ := h.escapeMode
  -- each option is listed once, under its own name
  have hfound (f : Field) (hf : f ∈ fields) {v : Value} (hv : findText? f.name o.toEntries = some v) : v = f.get o :=
    Option.some.inj (hv.symm.trans (findText?_toEntries o hf))
  simp only [fields, List.forall_mem_cons] at hfound
  obtain ⟨hfoundTarget, hfoundDir, hfoundMode, -⟩ := hfound
  simp only [textNames, List.forall_mem_cons]
  refine ⟨fun v hv => ?_, fun v hv => ?_, fun v hv => ?_, List.forall_mem_nil _⟩
  · obtain rfl := hfoundTarget hv
    exact ⟨target, congrArg Value.shown htarget⟩
  · obtain rfl := hfoundDir hv
    rcases h.templateDir with hdir | ⟨dir, hdir⟩
    · exact ⟨_, congrArg Value.shown hdir⟩
    · exact ⟨dir, congrArg Value.shown hdir⟩
  · obtain rfl := hfoundMode hv
    exact ⟨mode, congrArg Value.shown hmode⟩

/-! ## Dictionaries -/

/-- Two dictionaries have the same under the names of the options, in whatever order. -/
def Agree (d d' : Dictionary) : Prop := ∀ name ∈ names, ∀ v, d.Holds name v ↔ d'.Holds name v

theorem ofEntries_of_agree {d d' : Dictionary} (h : Agree d d') : ofEntries d.entries = ofEntries d'.entries := by
  refine eq_iff_fields.mpr fun f hf => ?_
  have hname : f.name ∈ names := map_name_fields ▸ List.mem_map_of_mem hf
  have hfind : findText? f.name d.entries = findText? f.name d'.entries := by
    ext v
    rw [← Dictionary.holds_iff, ← Dictionary.holds_iff]
    exact h f.name hname v
  rw [get_ofEntries _ hf, get_ofEntries _ hf, hfind]

/-- Updating a dictionary changes the options that the other one mentions, and no more. -/
theorem get_updated (d d' : Dictionary) {f : Field} (hf : f ∈ fields) :
    (d'.Mentions f.name → f.get (ofEntries (d.updated d').entries) = f.get (ofEntries d'.entries)) ∧
      (¬ d'.Mentions f.name → f.get (ofEntries (d.updated d').entries) = f.get (ofEntries d.entries)) := by
  rw [get_ofEntries _ hf, get_ofEntries _ hf, get_ofEntries _ hf, Dictionary.findText?_updated]
  constructor
  · rintro ⟨v, hv⟩
    rw [Dictionary.holds_iff.mp hv]
    rfl
  · intro hno
    rw [Dictionary.not_mentions_iff.mp hno]
    rfl

/-- Options are made of a dictionary exactly if the values of those that are texts can be written out. They are in
normal form, and they are made again of their listing, as are all options in this form and no others. Dictionaries
that agree under the names of the options give the same options. Of an updated dictionary, each option is that of the
other one if this mentions it and as it was if not. -/
theorem ofEntries_normal_form (d d' : Dictionary) :
    (∀ o : Options, fromDictionary d.entries = .ok o ↔
        o = ofEntries d.entries ∧ ∀ name ∈ textNames, ∀ v, d.Holds name v → ∃ t, v.shown = .ok t) ∧
      (ofEntries d.entries).Normal ∧ ofEntries (ofEntries d.entries).toEntries = ofEntries d.entries ∧
      fromDictionary (ofEntries d.entries).toEntries = .ok (ofEntries d.entries) ∧
      (∀ o : Options, ofEntries o.toEntries = o ↔ o.Normal) ∧
      (Agree d d' → ofEntries d.entries = ofEntries d'.entries) ∧
      ∀ f ∈ fields,
        (d'.Mentions f.name → f.get (ofEntries (d.updated d').entries) = f.get (ofEntries d'.entries)) ∧
          (¬ d'.Mentions f.name → f.get (ofEntries (d.updated d').entries) = f.get (ofEntries d.entries)) := by
  have hnormal := normal_ofEntries d.entries
  refine ⟨fun o => ?_, hnormal, (ofEntries_toEntries_iff _).mpr hnormal, fromDictionary_toEntries hnormal,
    ofEntries_toEntries_iff, ofEntries_of_agree, fun f hf => get_updated d d' hf⟩
  simp only [fromDictionary_eq_ok_iff, Dictionary.holds_iff]

/-- A dictionary in which a number is a key. -/
def mixed : Dictionary where
  entries := [(.int 1, .text "one"), (.text "trim_blocks", .int 0), (.text "template_dir", .none)]
  distinct := by decide

/-- The same options in another order, beside another key that is no option. -/
def reordered : Dictionary where
  entries := [(.text "template_dir", .none), (.text "other", .list []), (.text "trim_blocks", .int 0)]
  distinct := by decide

/-- Both give the same options. Updating the one with the other takes the option that is mentioned there, a number
that counts as false, and keeps the one that is not. -/
theorem ofEntries_normal_form_mixed :
    Agree mixed reordered ∧ ofEntries mixed.entries = ofEntries reordered.entries ∧
      reordered.Mentions "trim_blocks" ∧ ¬ reordered.Mentions "debug_mode" ∧
      (ofEntries (mixed.updated reordered).entries).trimBlocks = .bool false ∧
      (ofEntries (mixed.updated reordered).entries).debugMode = .bool false := by
  obtain ⟨-, -, -, -, -, hsame, hupdated⟩ := ofEntries_normal_form mixed reordered
  have hagree : Agree mixed reordered := by
    intro name hname v
    rw [Dictionary.holds_iff, Dictionary.holds_iff]
    revert name
    simp only [names, List.forall_mem_cons]
    exact ⟨.rfl, .rfl, .rfl, .rfl, .rfl, .rfl, .rfl, List.forall_mem_nil _⟩
  have hmentions : reordered.Mentions "trim_blocks" := ⟨.int 0, Dictionary.holds_iff.mpr rfl⟩
  have hno : ¬ reordered.Mentions "debug_mode" := Dictionary.not_mentions_iff.mpr rfl
  simp only [fields, List.forall_mem_cons] at hupdated
  obtain ⟨-, -, -, htrim, -, -, hdebug, -⟩ := hupdated
  exact ⟨hagree, hsame hagree, hmentions, hno, htrim.1 hmentions, hdebug.2 hno⟩

end Emission.Options
