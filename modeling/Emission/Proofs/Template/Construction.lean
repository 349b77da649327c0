import Emission.Proofs.Files.Change
import Emission.Proofs.Template.Group
import Emission.Proofs.Template.Shipped

/-!
# The construction of a group

A group is made of all files below a directory whose paths end in the suffix of templates, whatever the language they
are written in. Main statement: `ofDirectory_made_or_failed`, it is made exactly if there is such a file and all of
them can be read and compiled, and its templates are these files then; and it fails for the first one that cannot, in
the words of a failed construction only if that is an error of templates. `ofDirectory_undecodable` is a directory for
which the fault of reading comes through.
-/

namespace Emission.Template.Group

open Files (Path IsName)

variable {E : Engine} {fs : Files} {target name : String} {dir : Path} {o : GroupOptions} {g : Group E}

/-! ## The files that are templates -/

/-- A file below the directory whose path from there ends in the suffix of templates. The directory that it is in can
be looked into. -/
structure TemplateAt (fs : Files) (dir : Path) (name : String) : Prop where
  isDirectory : fs.isDirectory dir = .ok true
  suffix : ∃ stem, name = stem ++ ".j2"
  file : ∃ names, names ≠ [] ∧ (∀ part ∈ names, IsName part) ∧ name = "/".intercalate names ∧
    fs.opens dir names.dropLast = true ∧ (fs.follow (dir.further names)).isFile = true

/-- The text after the last dot is `j2` exactly if the name ends in the suffix. -/
theorem isTemplateName_iff : isTemplateName name = true ↔ ∃ stem, name = stem ++ ".j2" := by
  unfold isTemplateName
  constructor
  · intro h
    obtain ⟨hdot, hsuffix⟩ := Bool.and_eq_true_iff.mp h
    have hparts : name.toList.reverse =
        name.toList.reverse.takeWhile (· ≠ '.') ++ name.toList.reverse.dropWhile (· ≠ '.') :=
      List.takeWhile_append_dropWhile.symm
    rw [of_decide_eq_true hsuffix] at hparts
    cases hrest : name.toList.reverse.dropWhile (· ≠ '.') with
    | nil =>
      -- a dot is left where the other characters end
      rw [hparts, hrest] at hdot
      cases hdot
    | cons c rest =>
      have hc : c = '.' := by
        have hhead := List.head?_dropWhile_not (fun c : Char => decide (c ≠ '.')) name.toList.reverse
        rw [hrest] at hhead
        simpa using hhead
      refine ⟨.ofList rest.reverse, String.toList_inj.mp ?_⟩
      rw [← List.reverse_reverse name.toList, hparts, hrest, hc, String.toList_append, String.toList_ofList]
      simp
  · rintro ⟨stem, rfl⟩
    rw [String.toList_append]
    simp

theorem mem_templateNames_iff (h : fs.IsTree) : name ∈ templateNames fs dir ↔ TemplateAt fs dir name := by
  rw [templateNames, List.mem_filter, h.mem_filesBelow_iff, isTemplateName_iff]
  constructor
  · rintro ⟨⟨hdir, hfile⟩, hsuffix⟩
    exact ⟨hdir, hsuffix, hfile⟩
  · rintro ⟨hdir, hsuffix, hfile⟩
    exact ⟨⟨hdir, hfile⟩, hsuffix⟩

theorem templateNames_eq_nil_iff (h : fs.IsTree) :
    templateNames fs dir = [] ↔ ∀ name, ¬TemplateAt fs dir name := by
  simp only [List.eq_nil_iff_forall_not_mem, mem_templateNames_iff h]

theorem pairwise_templateNames (fs : Files) (dir : Path) : (templateNames fs dir).Pairwise (· < ·) :=
  (Files.pairwise_filesBelow fs dir).sublist List.filter_sublist

/-- A template is read where it was listed, if there is room for its path. -/
theorem source_of_templateAt (h : TemplateAt fs dir name) {here : Files.Place} {c : Files.Content}
    (hfile : fs.findAs (Files.joinText dir.text name) (dir.further (Files.pathParts name)) = .file here c) :
    source fs dir name = c.read.mapError .undecodable := by
  obtain ⟨names, hne, hnames, rfl, -⟩ := h.file
  rw [Files.pathParts_intercalate hne hnames] at hfile
  rw [source, Files.append_intercalate dir hne hnames, hfile]

/-! ## Flawed templates -/

/-- Why a template cannot be compiled. -/
inductive Flaw (E : Engine) (fs : Files) (dir : Path) (o : GroupOptions) (name : String) : Fault → Prop
  /-- What is there cannot be opened as a file. -/
  | missing (h : source fs dir name = .error (.missingTemplate name dir.text)) :
    Flaw E fs dir o name (.missingTemplate name dir.text)
  /-- What it holds is not the encoding of a text. -/
  | undecodable {fault : Text.Utf8Fault} (h : source fs dir name = .error (.undecodable fault)) :
    Flaw E fs dir o name (.undecodable fault)
  /-- The options do not say how to lay out a text. -/
  | options {text : String} {m : Misuse} (h : source fs dir name = .ok text) (ho : o.layout = .error m) :
    Flaw E fs dir o name (.misuse m)
  /-- The text does not compile. -/
  | text {text : String} {l : Layout} {f : Fault} (h : source fs dir name = .ok text) (ho : o.layout = .ok l)
    (hf : E.compile (initialSurroundings o) l (some name) text = .error f) : Flaw E fs dir o name f

/-- A template has no text because there is no file that can be opened or because the file cannot be decoded. -/
theorem source_eq_error {f : Fault} (h : source fs dir name = .error f) :
    f = .missingTemplate name dir.text ∨ ∃ fault, f = .undecodable fault := by
  unfold source at h
  split at h
  · next c _ =>
    cases hread : c.read with
    | error fault =>
      rw [hread] at h
      exact .inr ⟨fault, (Except.error.inj h).symm⟩
    | ok text =>
      rw [hread] at h
      cases h
  · exact .inl (Except.error.inj h).symm

theorem compileTemplate_eq_error_iff {f : Fault} :
    compileTemplate E fs dir o name = .error f ↔ Flaw E fs dir o name f := by
  unfold compileTemplate
  constructor
  · intro h
    cases hsource : source fs dir name with
    | error e =>
      rw [hsource] at h
      obtain rfl := Except.error.inj h
      obtain rfl | ⟨fault, rfl⟩ := source_eq_error hsource
      · exact .missing hsource
      · exact .undecodable hsource
    | ok text =>
      rw [hsource, ok_bind] at h
      cases hlayout : o.layout with
      | error m =>
        rw [hlayout] at h
        obtain rfl := Except.error.inj h
        exact .options hsource hlayout
      | ok l =>
        rw [hlayout] at h
        exact .text hsource hlayout h
  · intro h
    cases h with
    | missing hsource | undecodable hsource =>
      rw [hsource]
      rfl
    | options hsource ho =>
      rw [hsource, ho]
      rfl
    | text hsource ho hf =>
      rw [hsource, ho]
      exact hf

/-- The first template that cannot be compiled, and why. -/
structure FirstFlawed (E : Engine) (fs : Files) (dir : Path) (o : GroupOptions) (name : String) (f : Fault) :
    Prop where
  templateAt : TemplateAt fs dir name
  flaw : Flaw E fs dir o name f
  first : ∀ other f', TemplateAt fs dir other → Flaw E fs dir o other f' → ¬other < name

/-! ## How the construction fails -/

/-- How the construction of a group fails. -/
inductive Failure (E : Engine) (fs : Files) (target : String) (dir : Path) (o : GroupOptions) : Fault → Prop
  /-- No directory can have a path that is too long, and asking for it is an error. -/
  | overlong (h : fs.isDirectory dir = .error (.pathTooLong dir.text)) :
    Failure E fs target dir o (.pathTooLong dir.text)
  | noDirectory (h : fs.isDirectory dir = .ok false) :
    Failure E fs target dir o (.groupFailed target ("template directory not found: " ++ dir.text) none)
  | noTemplate (hdir : fs.isDirectory dir = .ok true) (h : ∀ name, ¬TemplateAt fs dir name) :
    Failure E fs target dir o (.groupFailed target ("no templates in " ++ dir.text) none)
  | blamed {name : String} {f : Fault} (h : FirstFlawed E fs dir o name f) (hf : f.isTemplateError = true) :
    Failure E fs target dir o (.groupFailed target f.message (some name))
  /-- A fault that is no error of templates is passed on as it is. -/
  | passed {name : String} {f : Fault} (h : FirstFlawed E fs dir o name f) (hf : f.isTemplateError = false) :
    Failure E fs target dir o f

theorem failure_blame {f : Fault} (h : FirstFlawed E fs dir o name f) :
    Failure E fs target dir o (blame target name f) := by
  unfold blame
  split
  · next hf => exact .blamed h hf
  · next hf => exact .passed h (Bool.eq_false_iff.mpr hf)

/-- With templates it depends on them alone whether the construction fails. -/
theorem ofDirectory_eq_error_iff_mapM (hdir : fs.isDirectory dir = .ok true) (h : templateNames fs dir ≠ [])
    {e : Fault} :
    ofDirectory (E := E) fs target dir o = .error e ↔
      (templateNames fs dir).mapM (entry E fs target dir o) = .error e := by
  rw [ofDirectory_of_templates hdir h]
  cases hprograms : (templateNames fs dir).mapM (entry E fs target dir o) with
  | error e' => simp
  | ok programs =>
    -- some template was compiled, so the options say how to lay out a text
    obtain ⟨name, hname⟩ := List.exists_mem_of_ne_nil _ h
    obtain ⟨p, hp, -⟩ := lookup_of_mapM_entry hprograms hname
    obtain ⟨-, layout, -, hlayout, -⟩ := compileTemplate_eq_ok_iff.mp hp
    simp [hlayout]

/-- The first template that cannot be compiled is where compiling them one after the other stops. -/
theorem mapM_eq_error_iff_firstFlawed (h : fs.IsTree) {e : Fault} :
    (templateNames fs dir).mapM (entry E fs target dir o) = .error e ↔
      ∃ name f, FirstFlawed E fs dir o name f ∧ e = blame target name f := by
  have hsorted := pairwise_templateNames fs dir
  rw [mapM_eq_error_iff]
  constructor
  · rintro ⟨before, name, after, hnames, hbefore, hfails⟩
    obtain ⟨f, hf, rfl⟩ := entry_eq_error_iff.mp hfails
    have hmem : name ∈ templateNames fs dir := hnames ▸ List.mem_append_right _ List.mem_cons_self
    refine ⟨name, f, ⟨(mem_templateNames_iff h).mp hmem, compileTemplate_eq_error_iff.mp hf, ?_⟩, rfl⟩
    intro other f' hother hf' hlt
    have hin : other ∈ before ++ name :: after := hnames ▸ (mem_templateNames_iff h).mpr hother
    rw [hnames] at hsorted
    obtain ⟨-, hbehind, -⟩ := List.pairwise_append.mp hsorted
    rcases List.mem_append.mp hin with hin | hin
    · obtain ⟨x, hx⟩ := hbefore other hin
      rw [entry_eq_error_iff.mpr ⟨f', compileTemplate_eq_error_iff.mpr hf', rfl⟩] at hx
      cases hx
    · rcases List.mem_cons.mp hin with rfl | hin
      · exact String.lt_irrefl _ hlt
      · exact String.lt_asymm hlt ((List.pairwise_cons.mp hbehind).1 other hin)
  · rintro ⟨name, f, ⟨hname, hf, hfirst⟩, rfl⟩
    obtain ⟨before, after, hnames⟩ := List.append_of_mem ((mem_templateNames_iff h).mpr hname)
    refine ⟨before, name, after, hnames, fun other hin => ?_,
      entry_eq_error_iff.mpr ⟨f, compileTemplate_eq_error_iff.mpr hf, rfl⟩⟩
    -- what comes before the first flaw has none
    rw [hnames] at hsorted
    obtain ⟨-, -, hordered⟩ := List.pairwise_append.mp hsorted
    have hlt : other < name := hordered other hin name List.mem_cons_self
    have hother : TemplateAt fs dir other :=
      (mem_templateNames_iff h).mp (hnames ▸ List.mem_append_left _ hin)
    cases hcompile : compileTemplate E fs dir o other with
    | error f' => exact absurd hlt (hfirst other f' hother (compileTemplate_eq_error_iff.mp hcompile))
    | ok p => exact ⟨(other, p), entry_eq_ok_iff.mpr ⟨p, hcompile, rfl⟩⟩

theorem isDirectory_eq_error {e : Fault} (h : fs.isDirectory dir = .error e) : e = .pathTooLong dir.text := by
  unfold Files.isDirectory at h
  split at h
  · cases h
  · exact (Except.error.inj h).symm
  · cases h

/-- The construction fails in these ways and in no others. -/
theorem ofDirectory_eq_error_iff (h : fs.IsTree) {e : Fault} :
    ofDirectory (E := E) fs target dir o = .error e ↔ Failure E fs target dir o e := by
  constructor
  · intro he
    match hdir : fs.isDirectory dir with
    | .error e' =>
      rw [ofDirectory_of_isDirectory_error hdir] at he
      obtain rfl := Except.error.inj he
      obtain rfl := isDirectory_eq_error hdir
      exact .overlong hdir
    | .ok false =>
      rw [ofDirectory_of_no_directory hdir] at he
      obtain rfl := Except.error.inj he
      exact .noDirectory hdir
    | .ok true =>
      by_cases hnames : templateNames fs dir = []
      · rw [ofDirectory_of_no_template hdir hnames] at he
        obtain rfl := Except.error.inj he
        exact .noTemplate hdir ((templateNames_eq_nil_iff h).mp hnames)
      · rw [ofDirectory_eq_error_iff_mapM hdir hnames, mapM_eq_error_iff_firstFlawed h] at he
        obtain ⟨name, f, hfirst, rfl⟩ := he
        exact failure_blame hfirst
  · have hflawed {name : String} {f : Fault} (hfirst : FirstFlawed E fs dir o name f) :
        ofDirectory (E := E) fs target dir o = .error (blame target name f) := by
      have hnames : templateNames fs dir ≠ [] := fun hnil =>
        (templateNames_eq_nil_iff h).mp hnil name hfirst.templateAt
      rw [ofDirectory_eq_error_iff_mapM hfirst.templateAt.isDirectory hnames, mapM_eq_error_iff_firstFlawed h]
      exact ⟨name, f, hfirst, rfl⟩
    intro hfailure
    cases hfailure with
    | overlong hdir => exact ofDirectory_of_isDirectory_error hdir target o
    | noDirectory hdir => exact ofDirectory_of_no_directory hdir target o
    | noTemplate hdir hnone =>
      exact ofDirectory_of_no_template hdir ((templateNames_eq_nil_iff h).mpr hnone) target o
    | blamed hfirst hf => rw [hflawed hfirst, blame, if_pos hf]
    | passed hfirst hf => rw [hflawed hfirst, blame, if_neg (Bool.eq_false_iff.mp hf)]

/-! ## The templates of a group -/

theorem mem_templates_iff (h : fs.IsTree) (hg : ofDirectory fs target dir o = .ok g) :
    name ∈ g.templates ↔ TemplateAt fs dir name := by
  rw [templates_of_ofDirectory hg, mem_templateNames_iff h]

theorem find_of_templateAt (h : fs.IsTree) (hg : ofDirectory fs target dir o = .ok g) {n : String}
    (hname : TemplateAt fs dir (fullName n)) :
    ∃ text p, source fs dir (fullName n) = .ok text ∧
      E.compile (initialSurroundings o) g.layout (some (fullName n)) text = .ok p ∧
      g.find n = .ok (fullName n, p) := by
  obtain ⟨text, p, htext, hp, hlookup⟩ := lookup_of_ofDirectory hg ((mem_templateNames_iff h).mpr hname)
  exact ⟨text, p, htext, hp, by simp only [find, hlookup]⟩

/-- What is not among the templates of a group is not found. -/
theorem find_of_notMem {n : String} (hn : fullName n ∉ g.templates) :
    g.find n = .error (.noTemplate g.name (fullName n)) := by
  have hnone : g.programs.lookup (fullName n) = none := by
    rw [List.lookup_eq_none_iff]
    exact fun p hp => bne_iff_ne.mpr fun heq => hn (List.mem_map.mpr ⟨p, hp, heq.symm⟩)
  simp only [find, hnone]

/-! ## Made or failed -/

/-- In every language, a group is made of a directory exactly if there is a template below it and none has a flaw. Its
templates are the files there whose paths end in the suffix of templates, in strictly ascending order; a name leads to
one exactly if it is one of them once it has the suffix, and then to what the text of that file was compiled to.
Otherwise the construction fails: because the path is too long, for want of a directory, for want of templates, or for
the first template with a flaw. The flaw is told as the failure of a construction, with the name of the template, if it
is an error of templates; any other error is told as it is, such as that a file cannot be read as a text. What is read
of a template is what the file holds that its name leads to from the directory. -/
theorem ofDirectory_made_or_failed (E : Engine) (h : fs.IsTree) (target : String) (dir : Path) (o : GroupOptions) :
    ((∃ g : Group E, ofDirectory fs target dir o = .ok g) ↔
      (∃ name, TemplateAt fs dir name) ∧ ∀ name f, TemplateAt fs dir name → ¬Flaw E fs dir o name f) ∧
    (∀ g : Group E, ofDirectory fs target dir o = .ok g →
      g.name = target ∧ g.templates.Pairwise (· < ·) ∧
      (∀ name, name ∈ g.templates ↔ TemplateAt fs dir name) ∧
      (∀ n, TemplateAt fs dir (fullName n) →
        ∃ text p, source fs dir (fullName n) = .ok text ∧
          E.compile (initialSurroundings o) g.layout (some (fullName n)) text = .ok p ∧
          g.find n = .ok (fullName n, p)) ∧
      ∀ n, ¬TemplateAt fs dir (fullName n) → g.find n = .error (.noTemplate target (fullName n))) ∧
    (∀ e, ofDirectory (E := E) fs target dir o = .error e ↔ Failure E fs target dir o e) ∧
    ∀ name, TemplateAt fs dir name → ∀ here c,
      fs.findAs (Files.joinText dir.text name) (dir.further (Files.pathParts name)) = .file here c →
        source fs dir name = c.read.mapError .undecodable := by
  refine ⟨?_, fun g hg => ?_, fun e => ofDirectory_eq_error_iff h, fun name hname here c => source_of_templateAt hname⟩
  · constructor
    · rintro ⟨g, hg⟩
      obtain ⟨-, hnames, -⟩ := ofDirectory_eq_ok_iff.mp hg
      refine ⟨?_, ?_⟩
      · obtain ⟨name, hmem⟩ := List.exists_mem_of_ne_nil _ hnames
        exact ⟨name, (mem_templateNames_iff h).mp hmem⟩
      · intro name f hname hf
        obtain ⟨-, -, programs, layout, hprograms, -⟩ := ofDirectory_eq_ok_iff.mp hg
        obtain ⟨p, hp, -⟩ := lookup_of_mapM_entry hprograms ((mem_templateNames_iff h).mpr hname)
        rw [compileTemplate_eq_error_iff.mpr hf] at hp
        cases hp
    · rintro ⟨⟨name, hname⟩, hsound⟩
      -- a failure would leave no template or a flawed one
      cases hmade : ofDirectory (E := E) fs target dir o with
      | ok g => exact ⟨g, rfl⟩
      | error e =>
        cases (ofDirectory_eq_error_iff h).mp hmade with
        | overlong hdir | noDirectory hdir =>
          rw [hname.isDirectory] at hdir
          cases hdir
        | noTemplate _ hnone => exact absurd hname (hnone name)
        | blamed hfirst _ | passed hfirst _ => exact absurd hfirst.flaw (hsound _ _ hfirst.templateAt)
  · have hname : g.name = target := by
      obtain ⟨-, -, programs, layout, -, -, rfl⟩ := ofDirectory_eq_ok_iff.mp hg
      rfl
    refine ⟨hname, ?_, fun name => mem_templates_iff h hg, fun n => find_of_templateAt h hg, fun n hn => ?_⟩
    · rw [templates_of_ofDirectory hg]
      exact pairwise_templateNames fs dir
    · rw [find_of_notMem (mt (mem_templates_iff h hg).mp hn), hname]

/-- The group of the PHP target has the templates that come with it and no other. -/
theorem ofDirectory_made_or_failed_php :
    Shipped.files.IsTree ∧ ∃ g : Group, ofDirectory Shipped.files "Php" (shippedDir "Php") {} = .ok g ∧
      (∀ name, name ∈ ["Header.j2", "LiteralNames.j2", "RuleNames.j2", "SerializedATN.j2"] ↔
        TemplateAt Shipped.files (shippedDir "Php") name) ∧
      g.find "Footer" = .error (.noTemplate "Php" "Footer.j2") := by
  obtain ⟨-, hmade, -, -⟩ := ofDirectory_made_or_failed Engine.standard Shipped.isTree_files "Php" (shippedDir "Php") {}
  have hg := Shipped.ofDirectory_php {} ⟨true, true, true⟩ rfl
  obtain ⟨-, -, htemplates, -, hnone⟩ := hmade _ hg
  have hfull : fullName "Footer" = "Footer.j2" := by decide +kernel
  refine ⟨Shipped.isTree_files, _, hg, htemplates, ?_⟩
  rw [← hfull]
  exact hnone "Footer" (by
    rw [hfull, ← htemplates]
    decide)

/-! ## A file that is no text -/

/-- The files that come with the library, and a template that is not the encoding of a text. -/
def unreadableFiles : Files :=
  (Shipped.files.put ⟨.working, ["t"]⟩ .directory).put ⟨.working, ["t", "x.j2"]⟩ (.file (.bytes [0xff]))

theorem place_unreadable :
    Shipped.files.place (Path.ofText "t/x.j2") (.bytes [0xff]) = .ok unreadableFiles := rfl

theorem templateNames_unreadable : templateNames unreadableFiles (Path.ofText "t") = ["x.j2"] := by
  have hfind : unreadableFiles.find (Path.ofText "t") = .directory ⟨.working, ["t"]⟩ := by decide +kernel
  have hlisted : unreadableFiles.nodes.filterMap
      (unreadableFiles.listed? (Path.ofText "t") ⟨.working, ["t"]⟩) = ["x.j2"] := by decide +kernel
  rw [templateNames, Files.filesBelow, hfind]
  simp only
  rw [hlisted, Text.sortedSet_of_pairwise (List.pairwise_singleton _ _)]
  decide +kernel

/-- The only template of a directory cannot be read, and the construction of its group does not fail as one, whatever
the language of the templates. -/
theorem ofDirectory_undecodable :
    ∃ fs, Shipped.files.place (Path.ofText "t/x.j2") (.bytes [0xff]) = .ok fs ∧ fs.IsTree ∧
      templateNames fs (Path.ofText "t") = ["x.j2"] ∧
      ∀ E : Engine,
        ofDirectory (E := E) fs "Php" (Path.ofText "t") {} = .error (.undecodable ⟨0, [0xff], .badStart⟩) := by
  have htree : unreadableFiles.IsTree :=
    Shipped.isTree_files.place (Files.proper_ofText "t/x.j2") place_unreadable
  refine ⟨unreadableFiles, place_unreadable, htree, templateNames_unreadable, fun E => ?_⟩
  have hmem : "x.j2" ∈ templateNames unreadableFiles (Path.ofText "t") := by
    rw [templateNames_unreadable]
    exact List.mem_singleton_self _
  rw [ofDirectory_of_templates (isDirectory_of_mem_templateNames hmem) (List.ne_nil_of_mem hmem),
    templateNames_unreadable]
  rfl

end Emission.Template.Group
