import Emission.Proofs.Fault
import Emission.Proofs.Files
import Emission.Proofs.Text.Order
import Emission.Template.Group

/-!
# Template groups from files

What making a group does with the files of a directory, and what registering renderers and names
afterwards leaves as it is, whatever the language of the templates. Main statements: `ofDirectory_eq_ok_iff`, which
says when a group can be made and what it is, and `lookup_of_ofDirectory`, by which every template of a group is what
the text of its file was compiled to.
-/

namespace Emission.Template.Group

open Files (Path)

variable {E : Engine} {fs : Files} {target name : String} {dir : Path} {o : GroupOptions} {g : Group E}

/-! ## Compiling templates -/

/-- A template that compiles has a text, and the options say how to lay it out. -/
theorem compileTemplate_eq_ok_iff {p : E.Code} :
    compileTemplate E fs dir o name = .ok p ↔
      ∃ text layout, source fs dir name = .ok text ∧ o.layout = .ok layout ∧
        E.compile (initialSurroundings o) layout (some name) text = .ok p := by
  unfold compileTemplate
  simp only [bind_eq_ok_iff, lift_eq_ok_iff]
  constructor
  · rintro ⟨text, htext, layout, hlayout, hp⟩
    exact ⟨text, layout, htext, hlayout, hp⟩
  · rintro ⟨text, layout, htext, hlayout, hp⟩
    exact ⟨text, htext, layout, hlayout, hp⟩

theorem entry_eq_ok_iff {x : String × E.Code} :
    entry E fs target dir o name = .ok x ↔ ∃ p, compileTemplate E fs dir o name = .ok p ∧ x = (name, p) := by
  unfold entry
  cases compileTemplate E fs dir o name with
  | error f => simp [Except.map]
  | ok p => simp [Except.map, eq_comm]

theorem entry_eq_error_iff {e : Fault} :
    entry E fs target dir o name = .error e ↔
      ∃ f, compileTemplate E fs dir o name = .error f ∧ e = blame target name f := by
  unfold entry
  cases compileTemplate E fs dir o name with
  | error f => simp [Except.map, eq_comm]
  | ok p => simp [Except.map]

/-- Templates that all compile stand under their own names. -/
theorem lookup_of_mapM_entry {names : List String} {programs : List (String × E.Code)}
    (h : names.mapM (entry E fs target dir o) = .ok programs) (hname : name ∈ names) :
    ∃ p, compileTemplate E fs dir o name = .ok p ∧ programs.lookup name = some p := by
  induction names generalizing programs with
  | nil => cases hname
  | cons first rest ih =>
    simp only [List.mapM_cons, bind_eq_ok_iff, pure_eq_ok, Except.ok.injEq] at h
    obtain ⟨x, hx, more, hmore, rfl⟩ := h
    obtain ⟨p, hp, rfl⟩ := entry_eq_ok_iff.mp hx
    by_cases heq : name = first
    · subst heq
      exact ⟨p, hp, by rw [List.lookup_cons, beq_self_eq_true]⟩
    · have hbeq : (name == first) = false := beq_eq_false_iff_ne.mpr heq
      obtain ⟨p', hp', hlookup⟩ := ih hmore ((List.mem_cons.mp hname).resolve_left heq)
      exact ⟨p', hp', by rw [List.lookup_cons, hbeq, hlookup]⟩

theorem map_fst_of_mapM_entry {names : List String} {programs : List (String × E.Code)}
    (h : names.mapM (entry E fs target dir o) = .ok programs) : programs.map (·.1) = names := by
  induction names generalizing programs with
  | nil =>
    obtain rfl := Except.ok.inj h
    rfl
  | cons first rest ih =>
    simp only [List.mapM_cons, bind_eq_ok_iff, pure_eq_ok, Except.ok.injEq] at h
    obtain ⟨x, hx, more, hmore, rfl⟩ := h
    obtain ⟨p, -, rfl⟩ := entry_eq_ok_iff.mp hx
    rw [List.map_cons, ih hmore]

/-! ## Making a group -/

/-- With templates, making a group is compiling them one after the other. -/
theorem ofDirectory_of_templates (hdir : fs.isDirectory dir = .ok true) (h : templateNames fs dir ≠ [])
    (target : String) (o : GroupOptions) :
    ofDirectory (E := E) fs target dir o = do
      let programs ← (templateNames fs dir).mapM (entry E fs target dir o)
      let layout ← (o.layout : Except Misuse Layout)
      return ⟨target, dir, layout, programs, initialSurroundings o⟩ := by
  obtain ⟨first, rest, hnames⟩ := List.exists_cons_of_ne_nil h
  rw [ofDirectory, hdir, hnames]
  rfl

theorem ofDirectory_of_no_template (hdir : fs.isDirectory dir = .ok true) (h : templateNames fs dir = [])
    (target : String) (o : GroupOptions) :
    ofDirectory (E := E) fs target dir o =
      .error (.groupFailed target ("no templates in " ++ dir.text) none) := by
  rw [ofDirectory, hdir, h]
  rfl

theorem ofDirectory_of_no_directory (h : fs.isDirectory dir = .ok false) (target : String) (o : GroupOptions) :
    ofDirectory (E := E) fs target dir o =
      .error (.groupFailed target ("template directory not found: " ++ dir.text) none) := by
  rw [ofDirectory, h]
  rfl

theorem ofDirectory_of_isDirectory_error {e : Fault} (h : fs.isDirectory dir = .error e) (target : String)
    (o : GroupOptions) : ofDirectory (E := E) fs target dir o = .error e := by
  rw [ofDirectory, h]
  rfl

/-- A group is made of a directory with templates, if all of them compile. -/
theorem ofDirectory_eq_ok_iff :
    ofDirectory fs target dir o = .ok g ↔
      fs.isDirectory dir = .ok true ∧ templateNames fs dir ≠ [] ∧
        ∃ programs layout, (templateNames fs dir).mapM (entry E fs target dir o) = .ok programs ∧
          o.layout = .ok layout ∧ g = ⟨target, dir, layout, programs, initialSurroundings o⟩ := by
  match hdir : fs.isDirectory dir with
  | .error e => simp [ofDirectory_of_isDirectory_error hdir]
  | .ok false => simp [ofDirectory_of_no_directory hdir]
  | .ok true =>
    by_cases hnames : templateNames fs dir = []
    · simp [ofDirectory_of_no_template hdir hnames, hnames]
    · rw [ofDirectory_of_templates hdir hnames]
      simp only [bind_eq_ok_iff, lift_eq_ok_iff, pure_eq_ok, Except.ok.injEq, hnames, ne_eq, not_false_eq_true,
        true_and]
      constructor
      · rintro ⟨programs, hprograms, layout, hlayout, rfl⟩
        exact ⟨programs, layout, hprograms, hlayout, rfl⟩
      · rintro ⟨programs, layout, hprograms, hlayout, rfl⟩
        exact ⟨programs, hprograms, layout, hlayout, rfl⟩

theorem templates_of_ofDirectory (hg : ofDirectory fs target dir o = .ok g) :
    g.templates = templateNames fs dir := by
  obtain ⟨-, -, programs, layout, hprograms, -, rfl⟩ := ofDirectory_eq_ok_iff.mp hg
  exact map_fst_of_mapM_entry hprograms

/-- Every template of a group has a text, and it is what the text was compiled to. -/
theorem lookup_of_ofDirectory (hg : ofDirectory fs target dir o = .ok g) (hname : name ∈ templateNames fs dir) :
    ∃ text p, source fs dir name = .ok text ∧
      E.compile (initialSurroundings o) g.layout (some name) text = .ok p ∧ g.programs.lookup name = some p := by
  obtain ⟨-, -, programs, layout, hprograms, hlayout, rfl⟩ := ofDirectory_eq_ok_iff.mp hg
  obtain ⟨p, hp, hlookup⟩ := lookup_of_mapM_entry hprograms hname
  obtain ⟨text, layout', htext, hlayout', hcompile⟩ := compileTemplate_eq_ok_iff.mp hp
  obtain rfl : layout = layout' := Except.ok.inj (hlayout.symm.trans hlayout')
  exact ⟨text, p, htext, hcompile, hlookup⟩

theorem isDirectory_of_mem_templateNames (h : name ∈ templateNames fs dir) : fs.isDirectory dir = .ok true := by
  cases hfind : fs.find dir with
  | directory top => rw [Files.isDirectory, hfind]
  | _ => simp [templateNames, Files.filesBelow, hfind] at h

/-- A template without carriage returns is read as it stands. -/
theorem source_of_findAs {text : String} {here : Files.Place}
    (hfind : fs.findAs (Files.joinText dir.text name) (dir.append name) = .file here (.text text))
    (htext : '\r' ∉ text.toList) : source fs dir name = .ok text := by
  rw [source, hfind]
  simp only [Files.Content.read_text htext, mapError_ok]

/-! ## A directory with one template -/

/-- A directory with a single template is a group if the text of the template compiles. -/
theorem ofDirectory_of_single {text : String} {l : Layout} (hnames : templateNames fs dir = [name])
    (hsource : source fs dir name = .ok text) (ho : o.layout = .ok l) :
    ofDirectory (E := E) fs target dir o =
      ((E.compile (initialSurroundings o) l (some name) text).mapError (blame target name)).map fun p =>
        ⟨target, dir, l, [(name, p)], initialSurroundings o⟩ := by
  have hdir : fs.isDirectory dir = .ok true :=
    isDirectory_of_mem_templateNames (hnames ▸ List.mem_singleton_self name : name ∈ templateNames fs dir)
  have hcompile : compileTemplate E fs dir o name = E.compile (initialSurroundings o) l (some name) text := by
    rw [compileTemplate, hsource, ho]
    rfl
  rw [ofDirectory_of_templates hdir (hnames ▸ List.cons_ne_nil name []), hnames, List.mapM_cons, List.mapM_nil, entry,
    hcompile, ho]
  cases E.compile (initialSurroundings o) l (some name) text <;> rfl

/-- Files with one template, in the directory of a target that is named `Php`. -/
def singleFiles (text : String) : Files where
  nodes := [(⟨.working, ["t"]⟩, .directory), (⟨.working, ["t", "Php"]⟩, .directory),
    (⟨.working, ["t", "Php", "x.j2"]⟩, .file (.text text))]

theorem templateNames_singleFiles (text : String) :
    templateNames (singleFiles text) (Path.ofText "t/Php") = ["x.j2"] := by
  have hfind : (singleFiles text).find (Path.ofText "t/Php") = .directory ⟨.working, ["t", "Php"]⟩ := rfl
  have hlisted : (singleFiles text).nodes.filterMap
      ((singleFiles text).listed? (Path.ofText "t/Php") ⟨.working, ["t", "Php"]⟩) = ["x.j2"] := rfl
  rw [templateNames, Files.filesBelow, hfind]
  simp only
  rw [hlisted, Text.sortedSet_of_pairwise (List.pairwise_singleton _ _)]
  decide +kernel

theorem source_singleFiles {text : String} (h : '\r' ∉ text.toList) :
    source (singleFiles text) (Path.ofText "t/Php") "x.j2" = .ok text := by
  have hfind : (singleFiles text).findAs (Files.joinText (Path.ofText "t/Php").text "x.j2")
      ((Path.ofText "t/Php").append "x.j2") = .file ⟨.working, ["t", "Php", "x.j2"]⟩ (.text text) := rfl
  exact source_of_findAs hfind h

/-! ## Registering afterwards -/

/-- A call that registers something with a group. -/
inductive Registration
  | renderer (mode : String) (f : Escape.Renderer)
  | constant (name : String) (v : Value)

/-- The group after a registration. A renderer without a mode is refused. -/
def register (g : Group E) : Registration → Group E
  | .renderer mode f => (g.registerRenderer mode f).toOption.getD g
  | .constant name v => g.setGlobal name v

/-- The group after several registrations. -/
def after (g : Group E) (rs : List Registration) : Group E := rs.foldl register g

/-- Registrations change the renderers and the names known to every template, and nothing else. -/
theorem after_eq (g : Group E) (rs : List Registration) :
    ∃ renderers globals,
      g.after rs =
        { g with surroundings := ⟨renderers, globals, g.surroundings.showAbsent⟩ } := by
  -- each registration makes another group, so the induction is for every group
  induction rs generalizing g with
  | nil => exact ⟨_, _, rfl⟩
  | cons r rest ih =>
    obtain ⟨renderers, globals, hrest⟩ := ih (g.register r)
    refine ⟨renderers, globals, ?_⟩
    show (g.register r).after rest = _
    rw [hrest]
    cases r with
    | constant name v => rfl
    | renderer mode f =>
      by_cases hmode : mode = ""
      · simp [register, registerRenderer, hmode, Except.toOption]
      · simp [register, registerRenderer, hmode, Except.toOption]

theorem after_append (g : Group E) (rs rs' : List Registration) :
    g.after (rs ++ rs') = (g.after rs).after rs' :=
  List.foldl_append

/-- Renderers that can all be registered are registered one after the other. -/
theorem after_of_registerAll {renderers : Escape.Renderers} {g' : Group E}
    (h : g.registerAll renderers = .ok g') :
    g' = g.after (renderers.map fun r => .renderer r.1 r.2) := by
  induction renderers generalizing g with
  | nil => exact (Except.ok.inj h).symm
  | cons r rest ih =>
    obtain ⟨mode, f⟩ := r
    simp only [registerAll, List.foldlM_cons, bind_eq_ok_iff] at h
    obtain ⟨next, hnext, hrest⟩ := h
    have hregister : g.register (.renderer mode f) = next := by
      rw [register, hnext]
      rfl
    rw [ih hrest, List.map_cons, after, after, List.foldl_cons, hregister]

/-- Renderers with modes can all be registered. -/
theorem exists_registerAll (g : Group E) {renderers : Escape.Renderers} (h : "" ∉ renderers.modes) :
    ∃ g', g.registerAll renderers = .ok g' := by
  induction renderers generalizing g with
  | nil => exact ⟨g, rfl⟩
  | cons r rest ih =>
    obtain ⟨mode, f⟩ := r
    have hmode : mode ≠ "" := fun heq => h (heq ▸ List.mem_cons_self)
    have hnext : g.registerRenderer mode f = .ok _ := if_neg hmode
    have hrest : "" ∉ Escape.Renderers.modes rest := fun hmem => h (List.mem_cons_of_mem mode hmem)
    simp only [registerAll, List.foldlM_cons, hnext, ok_bind]
    exact ih _ hrest

/-- Renderers leave the names known to every template as they are. -/
theorem globals_after_renderers (g : Group E) (renderers : Escape.Renderers) :
    (g.after (renderers.map fun r => .renderer r.1 r.2)).surroundings.globals = g.surroundings.globals := by
  induction renderers generalizing g with
  | nil => rfl
  | cons r rest ih =>
    rw [List.map_cons, after, List.foldl_cons]
    refine (ih _).trans ?_
    by_cases hmode : r.1 = ""
    · simp [register, registerRenderer, hmode, Except.toOption]
    · simp [register, registerRenderer, hmode, Except.toOption]

theorem find_after {name file : String} {p : E.Code} (hp : g.programs.lookup file = some p)
    (hname : fullName name = file) (rs : List Registration) : (g.after rs).find name = .ok (file, p) := by
  obtain ⟨renderers, globals, heq⟩ := g.after_eq rs
  rw [heq, find, hname]
  simp only [hp]

/-! ## Rendering in a group -/

/-- No value is named like an argument of the two ways to render. -/
def NamedFreely (values : List (String × Value)) : Prop :=
  ∀ v ∈ values, v.1 ∉ ["self", "template_name", "source"]

theorem checkNames_eq_ok {values : List (String × Value)} (hvalues : NamedFreely values)
    (function : String) {arguments : List String}
    (h : arguments ⊆ ["self", "template_name", "source"]) :
    checkNames function arguments values = .ok () := by
  have hfree : values.find? (fun v => arguments.contains v.1) = none := by
    rw [List.find?_eq_none]
    intro v hv hcontains
    exact hvalues v hv (h (List.contains_iff_mem.mp hcontains))
  rw [checkNames, hfree]

/-- A text is compiled and rendered with what is registered now. -/
theorem renderText_eq (source : String) {values : List (String × Value)}
    (hvalues : NamedFreely values) : g.renderText source values = g.renderAs none source values := by
  rw [renderText, checkNames_eq_ok hvalues _ (by simp)]
  rfl

end Emission.Template.Group
