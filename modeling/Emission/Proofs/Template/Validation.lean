import Emission.Proofs.Template.Engine
import Emission.Proofs.Template.Formats

/-!
# What validating a text tells

Validating a text only reads it. Rendering it, or making a group of a directory that holds it, compiles it as
well, and then it may be refused although it is valid. Main statement: `validate_predicts`, which says in every
language when validating tells what rendering and loading do; `validate_unknownFilter` is a text for which it does not.
-/

namespace Emission.Template.Group

open Files (Path)

variable {E : Engine} {fs : Files} {target file source : String} {dir : Path} {o : GroupOptions} {g : Group E}
  {borrows : Layout → String → Prop} {asks : Surroundings → Layout → String → Question → Prop}
  {tells : Surroundings → Layout → String → Prop}

/-! ## Validating -/

theorem validate_of_read_ok (h : E.read g.layout source = .ok ()) : g.validate source = .ok none := by
  rw [validate, Engine.validate, h]

theorem validate_of_read_error {e : Fault} (h : E.read g.layout source = .error e) :
    g.validate source = if e.isTemplateError then .ok (some e) else .error e := by
  rw [validate, Engine.validate, h]

/-- What is found wrong with a text is an error of templates that reading it ends in. -/
theorem read_of_validate_some {fault : Fault} (h : g.validate source = .ok (some fault)) :
    E.read g.layout source = .error fault ∧ fault.isTemplateError = true := by
  cases hread : E.read g.layout source with
  | ok u =>
    rw [validate_of_read_ok hread] at h
    cases h
  | error e =>
    rw [validate_of_read_error hread] at h
    split at h
    · next he =>
      cases h
      exact ⟨rfl, he⟩
    · cases h

/-- Validating fails only if reading the text ends in another error. -/
theorem read_of_validate_error {e : Fault} (h : g.validate source = .error e) :
    E.read g.layout source = .error e ∧ e.isTemplateError = false := by
  cases hread : E.read g.layout source with
  | ok u =>
    rw [validate_of_read_ok hread] at h
    cases h
  | error e' =>
    rw [validate_of_read_error hread] at h
    split at h
    · cases h
    · next he =>
      cases h
      exact ⟨rfl, Bool.eq_false_iff.mpr he⟩

/-! ## Rendering a text -/

/-- The text is not refused, whatever it is rendered with. -/
def Renders (g : Group E) (source : String) : Prop := ∀ values, Spared (g.renderText source values)

theorem renderText_of_compile_error {e : Fault} (h : E.compile g.surroundings g.layout none source = .error e)
    {values : List (String × Value)} (hvalues : NamedFreely values) : g.renderText source values = .error e := by
  rw [renderText_eq source hvalues, renderAs, Engine.render, h]
  rfl

theorem spared_compile_of_renders (h : g.Renders source) :
    Spared (E.compile g.surroundings g.layout none source) := by
  intro e he
  exact h [] e (renderText_of_compile_error he (by simp [NamedFreely]))

theorem renders_of_spared_compile (hE : E.Staged borrows) (hborrows : ¬borrows g.layout source)
    (h : Spared (E.compile g.surroundings g.layout none source)) : g.Renders source := by
  intro values
  have hnames : Spared (checkNames "TemplateGroup.render_string" ["self", "source"] values) := by
    unfold checkNames
    split
    · exact .error rfl
    · exact .ok _
  refine hnames.bind fun _ => ?_
  cases hcompile : E.compile g.surroundings g.layout none source with
  | error e =>
    rw [renderAs, Engine.render, hcompile]
    exact .error (h e hcompile)
  | ok code =>
    rw [renderAs, Engine.render, hcompile]
    exact hE.spared hborrows hcompile _

/-! ## Making a group of one file -/

/-- Making a group of the directory does not fail as the construction of a group. -/
def Loads (E : Engine) (fs : Files) (target : String) (dir : Path) (o : GroupOptions) : Prop :=
  ∀ name message template, ofDirectory (E := E) fs target dir o ≠ .error (.groupFailed name message template)

/-- The file is the only template in the directory, and it is read as the text, with its newlines unified. -/
structure Alone (fs : Files) (dir : Path) (file source : String) : Prop where
  templateNames_eq : templateNames fs dir = [file]
  source_eq : Group.source fs dir file = .ok (.ofList (Text.unifyNewlines source.toList))

theorem ofDirectory_of_alone (hE : E.Staged borrows) (hfile : Alone fs dir file source) {l : Layout}
    (ho : o.layout = .ok l) (target : String) :
    ofDirectory (E := E) fs target dir o =
      ((E.compile (initialSurroundings o) l (some file) source).mapError (blame target file)).map fun p =>
        ⟨target, dir, l, [(file, p)], initialSurroundings o⟩ := by
  rw [ofDirectory_of_single hfile.templateNames_eq hfile.source_eq ho, hE.compile_unifyNewlines]

/-- A text that is refused is told as the failure of the group. -/
theorem ofDirectory_of_compile_error (hE : E.Staged borrows) (hfile : Alone fs dir file source) {l : Layout}
    (ho : o.layout = .ok l) {e : Fault} (h : E.compile (initialSurroundings o) l none source = .error e)
    (he : e.isTemplateError = true) (target : String) :
    ofDirectory (E := E) fs target dir o = .error (.groupFailed target e.message (some file)) := by
  rw [ofDirectory_of_alone hE hfile ho, hE.compile_error h he (some file)]
  show Except.error (blame target file e) = _
  rw [blame, if_pos he]

/-- A text that does not compile for another reason lets the making of the group fail for such a reason. -/
theorem ofDirectory_of_compile_error_other (hE : E.Staged borrows) (hfile : Alone fs dir file source) {l : Layout}
    (ho : o.layout = .ok l) {e : Fault} (h : E.compile (initialSurroundings o) l none source = .error e)
    (he : e.isTemplateError = false) (target : String) :
    ∃ e', ofDirectory (E := E) fs target dir o = .error e' ∧ e'.isTemplateError = false ∧
      ∀ name message template, e' ≠ .groupFailed name message template := by
  obtain ⟨e', he', hother, -⟩ := hE.exists_compile_error h (some file)
  rw [he] at hother
  refine ⟨e', ?_, hother, hE.ne_groupFailed he'⟩
  rw [ofDirectory_of_alone hE hfile ho, he']
  show Except.error (blame target file e') = _
  rw [blame, if_neg (Bool.eq_false_iff.mp hother)]

theorem loads_iff_spared_compile (hE : E.Staged borrows) (hfile : Alone fs dir file source) {l : Layout}
    (ho : o.layout = .ok l) (target : String) :
    Loads E fs target dir o ↔ Spared (E.compile (initialSurroundings o) l none source) := by
  cases hcompile : E.compile (initialSurroundings o) l none source with
  | error e =>
    -- only an error of templates is told as the failure of the group
    cases he : e.isTemplateError with
    | true =>
      have hrefuses : e.refuses = true := hE.refuses hcompile he
      have hfails := ofDirectory_of_compile_error hE hfile ho hcompile he target
      refine iff_of_false (fun h => h _ _ _ hfails) fun h => ?_
      rw [h e rfl] at hrefuses
      cases hrefuses
    | false =>
      obtain ⟨e', hfails, -, hgroup⟩ := ofDirectory_of_compile_error_other hE hfile ho hcompile he target
      refine iff_of_true (fun name message template h => ?_) (.error (Fault.refuses_of_isTemplateError he))
      exact hgroup _ _ _ (Except.error.inj (hfails.symm.trans h))
  | ok code =>
    refine iff_of_true (fun name message template hfails => ?_) (.ok code)
    obtain ⟨code', hcode⟩ := hE.compile_ok hcompile (some file)
    rw [ofDirectory_of_alone hE hfile ho, hcode] at hfails
    cases hfails

/-! ## Validating predicts -/

/-- In every language, for a group and a directory that is made into a group with the same options:

* a text that is found wrong when it is validated is refused for that very reason when it is rendered, and no group can
  be made of it;
* a text in which nothing is found wrong is not refused when it is rendered exactly if it is not refused when it is
  compiled in the group, supposing that it needs no other templates; a group can be made of it, or its making fails in
  another way, exactly if it is not refused when it is compiled in the surroundings of a group without registrations;
  and these two agree if what it formats in a constant way looks the same in both;
* and a text that cannot be validated for another reason fails both ways for another reason. -/
theorem validate_predicts (hlocal : E.Local asks tells) (hE : E.Staged borrows) (ho : o.layout = .ok g.layout)
    (hshow : o.showAbsent.truthy = g.surroundings.showAbsent) (hfile : Alone fs dir file source) (target : String) :
    (∀ fault, g.validate source = .ok (some fault) →
      fault.refuses = true ∧
      (∀ values, NamedFreely values → g.renderText source values = .error fault) ∧
      ofDirectory (E := E) fs target dir o = .error (.groupFailed target fault.message (some file))) ∧
    (g.validate source = .ok none →
      (g.Renders source → Spared (E.compile g.surroundings g.layout none source)) ∧
      (¬borrows g.layout source → Spared (E.compile g.surroundings g.layout none source) → g.Renders source) ∧
      (Loads E fs target dir o ↔ Spared (E.compile (initialSurroundings o) g.layout none source)) ∧
      ((∀ q, asks (initialSurroundings o) g.layout source q →
          (initialSurroundings o).answer q = g.surroundings.answer q) →
        ¬borrows g.layout source → (g.Renders source ↔ Loads E fs target dir o))) ∧
    (∀ e, g.validate source = .error e →
      (∀ values, NamedFreely values →
        ∃ e', g.renderText source values = .error e' ∧ e'.isTemplateError = false) ∧
      Loads E fs target dir o ∧
      ∃ e', ofDirectory (E := E) fs target dir o = .error e' ∧ e'.isTemplateError = false) := by
  have hloads := loads_iff_spared_compile hE hfile ho target
  refine ⟨fun fault hfault => ?_, fun _ => ?_, fun e he => ?_⟩
  · obtain ⟨hread, htemplate⟩ := read_of_validate_some hfault
    have hcompile := hE.compile_of_read hread htemplate
    refine ⟨hE.refuses (hcompile g.surroundings none) htemplate, fun values hvalues => ?_, ?_⟩
    · exact renderText_of_compile_error (hcompile _ none) hvalues
    · exact ofDirectory_of_compile_error hE hfile ho (hcompile _ none) htemplate target
  · refine ⟨spared_compile_of_renders, renders_of_spared_compile hE, hloads, fun hsame hborrows => ?_⟩
    -- what is asked is answered alike, so both compile to the same
    have hcompile : E.compile (initialSurroundings o) g.layout none source =
        E.compile g.surroundings g.layout none source := hlocal.compile_congr hshow hsame none
    rw [hloads, hcompile]
    exact ⟨spared_compile_of_renders, renders_of_spared_compile hE hborrows⟩
  · obtain ⟨hread, hother⟩ := read_of_validate_error he
    refine ⟨fun values hvalues => ?_, ?_⟩
    · obtain ⟨e', he', hother'⟩ := hE.compile_of_read_other hread hother g.surroundings none
      exact ⟨e', renderText_of_compile_error he' hvalues, hother'⟩
    · obtain ⟨e', he', hother'⟩ := hE.compile_of_read_other hread hother (initialSurroundings o) none
      obtain ⟨e'', hfails, hother'', hgroup⟩ := ofDirectory_of_compile_error_other hE hfile ho he' hother' target
      refine ⟨fun name message template h => ?_, e'', hfails, hother''⟩
      exact hgroup _ _ _ (Except.error.inj (hfails.symm.trans h))

/-! ## A template that needs what does not exist -/

/-- A template with a filter that does not exist. -/
def strangeSource : String := "\x7b\x7b x | nosuch \x7d\x7d"

theorem parse_strangeSource (l : Layout) :
    parse l strangeSource = .ok [.print (.filter (.name "x") "nosuch" [] [] none none)] := by
  apply eq_ok_of_readsAs
  unfold parse scan Layout.source strangeSource
  rw [String.toList_ofList]
  rcases l with ⟨_ | _, _ | _, _ | _⟩ <;> decide +kernel

theorem compile_strangeSource (s : Surroundings) (l : Layout) :
    compile s l strangeSource = .error (.unknownFilter "nosuch") := by
  rw [compile, parse_strangeSource]
  rfl

theorem alone_singleFiles {text : String} (h : '\r' ∉ text.toList) :
    Alone (singleFiles text) (Path.ofText "t/Php") "x.j2" text where
  templateNames_eq := templateNames_singleFiles text
  source_eq := by rw [source_singleFiles h, Text.unifyNewlines_of_not_mem h, String.ofList_toList]

theorem alone_strangeSource : Alone (singleFiles strangeSource) (Path.ofText "t/Php") "x.j2" strangeSource := by
  refine alone_singleFiles ?_
  unfold strangeSource
  rw [String.toList_ofList]
  decide

/-- For the shipped templates, a text that formats a value renders and loads, as validating it tells. A text that needs
what does not exist does neither, although nothing is found wrong with it. -/
theorem validate_predicts_format_and_strange :
    Engine.standard.Local Asks Tells ∧ Engine.standard.Staged (fun _ _ => False) ∧
      ∃ g : Group, ofDirectory Shipped.files "Php" (shippedDir "Php") {} = .ok g ∧
        (g.validate formatSource = .ok none ∧ g.Renders formatSource ∧
          Loads .standard (singleFiles formatSource) "Php" (Path.ofText "t/Php") {}) ∧
        g.validate strangeSource = .ok none ∧ ¬g.Renders strangeSource ∧
          ¬Loads .standard (singleFiles strangeSource) "Php" (Path.ofText "t/Php") {} := by
  have hg := Shipped.ofDirectory_php {} ⟨true, true, true⟩ rfl
  refine ⟨standard_local, standard_staged, _, hg, ?_, ?_⟩
  · have hvalid : (Shipped.phpGroup {} ⟨true, true, true⟩).validate formatSource = .ok none :=
      validate_of_read_ok (read_of_parse_ok (parse_formatSource _))
    have halone : Alone (singleFiles formatSource) (Path.ofText "t/Php") "x.j2" formatSource := by
      refine alone_singleFiles ?_
      unfold formatSource
      rw [String.toList_ofList]
      decide
    obtain ⟨-, hrenders, hloads, -⟩ :=
      (validate_predicts standard_local standard_staged (o := {}) rfl rfl halone "Php").2.1 hvalid
    have hspared (s : Surroundings) (l : Layout) : Spared (compile s l formatSource) := by
      rw [compile_formatSource]
      exact .ok _
    exact ⟨hvalid, hrenders not_false (hspared _ _), hloads.mpr (hspared _ _)⟩
  · have hvalid : (Shipped.phpGroup {} ⟨true, true, true⟩).validate strangeSource = .ok none :=
      validate_of_read_ok (read_of_parse_ok (parse_strangeSource _))
    obtain ⟨hrenders, -, hloads, -⟩ :=
      (validate_predicts standard_local standard_staged (o := {}) rfl rfl alone_strangeSource "Php").2.1 hvalid
    have hrefused (s : Surroundings) (l : Layout) : ¬Spared (compile s l strangeSource) := fun h =>
      absurd (h _ (compile_strangeSource s l)) (by decide)
    exact ⟨hvalid, fun h => hrefused _ _ (hrenders h), fun h => hrefused _ _ (hloads.mp h)⟩

/-- Nothing is found wrong with a text that needs a filter that does not exist, but rendering the text and
making a group of it are refused. -/
theorem validate_unknownFilter :
    ∃ g : Group, ofDirectory Shipped.files "Php" (shippedDir "Php") {} = .ok g ∧
      g.validate strangeSource = .ok none ∧
      g.renderText strangeSource [] = .error (.unknownFilter "nosuch") ∧
      Alone (singleFiles strangeSource) (Path.ofText "t/Php") "x.j2" strangeSource ∧
      ofDirectory (E := .standard) (singleFiles strangeSource) "Php" (Path.ofText "t/Php") {} =
        .error (.groupFailed "Php" "No filter named 'nosuch'." (some "x.j2")) := by
  have hvalid : (Shipped.phpGroup {} ⟨true, true, true⟩).validate strangeSource = .ok none :=
    validate_of_read_ok (read_of_parse_ok (parse_strangeSource _))
  refine ⟨_, Shipped.ofDirectory_php {} ⟨true, true, true⟩ rfl, hvalid, ?_, alone_strangeSource, ?_⟩
  · exact renderText_of_compile_error (compile_strangeSource _ _) (by simp [NamedFreely])
  · have hcompile : Engine.standard.compile (initialSurroundings {}) ⟨true, true, true⟩ none strangeSource =
        .error (.unknownFilter "nosuch") := compile_strangeSource _ _
    rw [ofDirectory_of_compile_error standard_staged alone_strangeSource rfl hcompile (by decide)]
    rfl

end Emission.Template.Group
