import Emission.Proofs.Files
import Emission.Proofs.Template.Group
import Emission.Proofs.Template.Tree
import Emission.Proofs.Text.Order
import Emission.Template.Shipped

/-!
# The shipped templates, read

The trees of the shipped templates under every layout, and the group that they make. Where a line feed
stands behind a tag or at the end of a file, the layout says whether it stays; the blanks that a layout
strips before tags never come up, as every tag of these files starts its line or stands inside one. Main
statement: `ofDirectory_php`, the shipped group can be made whatever the options.
-/

namespace Emission.Template.Shipped

open Files (Content Path)

/-! ## Lines of a template -/

/-- A text behind a tag that ends its line. -/
def behindTag (l : Layout) (s : String) : String := if l.trimBlocks then s else "\n" ++ s

/-- The text of a last line. -/
def lastLine (l : Layout) (s : String) : String := if l.keepTrailingNewline then s ++ "\n" else s

theorem toList_behindTag (l : Layout) (s : String) :
    (behindTag l s).toList = (if l.trimBlocks then [] else ['\n']) ++ s.toList := by
  rw [behindTag]
  split
  · rfl
  · rw [String.toList_append, String.toList_ofList]

theorem toList_lastLine (l : Layout) (s : String) :
    ∃ more, (lastLine l s).toList = s.toList ++ more := by
  rw [lastLine]
  split
  · exact ⟨['\n'], by rw [String.toList_append, String.toList_ofList]⟩
  · exact ⟨[], (List.append_nil _).symm⟩

theorem isBlank_of_mem_replicate (n : Nat) : ∀ c ∈ List.replicate n ' ', Text.isBlank c = true := by
  intro c hc
  rw [List.eq_of_mem_replicate hc]
  rfl

/-- A line behind a tag begins with white space, whatever the layout makes of the line feed. -/
theorem toList_behindTag_blanks (l : Layout) {s : String} {n : Nat} {rest : List Char}
    (hs : s.toList = List.replicate n ' ' ++ rest) :
    ∃ blanks, (∀ c ∈ blanks, Text.isBlank c = true) ∧ (behindTag l s).toList = blanks ++ rest := by
  refine ⟨(if l.trimBlocks then [] else ['\n']) ++ List.replicate n ' ', ?_, ?_⟩
  · intro c hc
    rcases List.mem_append.mp hc with hbreak | hblank
    · obtain ⟨-, rfl⟩ : l.trimBlocks = false ∧ c = '\n' := by simpa using hbreak
      rfl
    · exact isBlank_of_mem_replicate n c hblank
  · rw [toList_behindTag, hs, List.append_assoc]

/-! ## The trees of the files -/

def headerTree (l : Layout) : List Statement :=
  [.text "<?php\n\n/*\n * Generated from ",
    .print (.filter (.name "grammar_file_name") "fmt" [.name "escape_mode"] [] none none),
    .text " by targetkit ",
    .print (.name "target_version"),
    .text "\n */\n",
    .choose
      [(.name "php_namespace",
        [.text (behindTag l "\nnamespace "), .print (.name "php_namespace"), .text ";\n"])] []] ++
    if l.trimBlocks || !l.keepTrailingNewline then [] else [.text "\n"]

def literalNamesTree (l : Layout) : List Statement :=
  [.text (behindTag l
      "    /**\n     * @var array<string|null>\n     */\n    protected const LITERAL_NAMES = [\n"),
    .loop (.name "literal") (.name "literal_names") none
      [.text (behindTag l "        "),
        .print (.choose (.not (.test (.name "literal") "none" [] [] none none)) (.name "literal")
          (some (.const (.text "null"))) 7),
        .text ",\n"] [],
    .text (behindTag l (lastLine l "    ];"))]

def ruleNamesTree (l : Layout) : List Statement :=
  [.text "    public const RULE_NAMES = [\n",
    .loop (.name "name") (.name "rule_names") none
      [.text (behindTag l "        '"), .print (.name "name"), .text "',\n"] [],
    .text (behindTag l (lastLine l "    ];"))]

def serializedAtnTree (l : Layout) : List Statement :=
  [.text (behindTag l
      "    private static function serializedAtn(): array\n    \x7b\n        return \\array_merge(\n"),
    .loop (.name "segment") (.name "segments") none
      [.text (behindTag l "            ["),
        .print (.filter (.name "segment") "join_commas" [] [] none none),
        .text "]",
        .print (.choose (.not (.member (.name "loop") "last")) (.const (.text ","))
          (some (.const (.text ""))) 6),
        .text "\n"] [],
    .text (behindTag l (lastLine l "        );\n    \x7d"))]

/-! ## Reading them

The characters of each source are made explicit first: running the reader on them is quick, while taking
them out of a text is not. -/

set_option maxRecDepth 10000

theorem parse_header (l : Layout) : parse l header = .ok (headerTree l) := by
  apply eq_ok_of_readsAs
  unfold parse scan Layout.source header
  simp only [String.toList_append]
  repeat rw [String.toList_ofList]
  rcases l with ⟨_ | _, _ | _, _ | _⟩ <;> decide +kernel

theorem parse_literalNames (l : Layout) : parse l literalNames = .ok (literalNamesTree l) := by
  apply eq_ok_of_readsAs
  unfold parse scan Layout.source literalNames
  simp only [String.toList_append]
  repeat rw [String.toList_ofList]
  rcases l with ⟨_ | _, _ | _, _ | _⟩ <;> decide +kernel

theorem parse_ruleNames (l : Layout) : parse l ruleNames = .ok (ruleNamesTree l) := by
  apply eq_ok_of_readsAs
  unfold parse scan Layout.source ruleNames
  simp only [String.toList_append]
  repeat rw [String.toList_ofList]
  rcases l with ⟨_ | _, _ | _, _ | _⟩ <;> decide +kernel

theorem parse_serializedAtn (l : Layout) : parse l serializedAtn = .ok (serializedAtnTree l) := by
  apply eq_ok_of_readsAs
  unfold parse scan Layout.source serializedAtn
  simp only [String.toList_append]
  repeat rw [String.toList_ofList]
  rcases l with ⟨_ | _, _ | _, _ | _⟩ <;> decide +kernel

/-! ## Compiling them

Nothing in them is made of constants alone, so the program of each is its tree. -/

theorem compile_of_prepareAll {s : Surroundings} {l : Layout} {source : String}
    {tree body : List Statement} (hp : parse l source = .ok tree)
    (hb : prepareAll s false (markScopes tree) = .ok body) : compile s l source = .ok ⟨body⟩ := by
  rw [compile, hp]
  simp only [mapError_ok, ok_bind, hb, pure_eq_ok]

theorem compile_header (s : Surroundings) (l : Layout) :
    compile s l header = .ok ⟨headerTree l⟩ := by
  apply compile_of_prepareAll (parse_header l)
  rcases l with ⟨_ | _, _ | _, _ | _⟩ <;> rfl

theorem compile_literalNames (s : Surroundings) (l : Layout) :
    compile s l literalNames = .ok ⟨literalNamesTree l⟩ :=
  compile_of_prepareAll (parse_literalNames l) rfl

theorem compile_ruleNames (s : Surroundings) (l : Layout) :
    compile s l ruleNames = .ok ⟨ruleNamesTree l⟩ :=
  compile_of_prepareAll (parse_ruleNames l) rfl

theorem compile_serializedAtn (s : Surroundings) (l : Layout) :
    compile s l serializedAtn = .ok ⟨serializedAtnTree l⟩ :=
  compile_of_prepareAll (parse_serializedAtn l) rfl

/-! ## The group -/

/-- The files of the PHP target in ascending order of their names. -/
def phpFiles : List (String × String) :=
  [("Header.j2", header), ("LiteralNames.j2", literalNames), ("RuleNames.j2", ruleNames),
    ("SerializedATN.j2", serializedAtn)]

def phpPrograms (l : Layout) : List (String × Program) :=
  [("Header.j2", ⟨headerTree l⟩), ("LiteralNames.j2", ⟨literalNamesTree l⟩),
    ("RuleNames.j2", ⟨ruleNamesTree l⟩), ("SerializedATN.j2", ⟨serializedAtnTree l⟩)]

/-- The group of the PHP target before anything is registered. -/
def phpGroup (o : GroupOptions) (l : Layout) : Group where
  name := "Php"
  dir := Group.shippedDir "Php"
  layout := l
  programs := phpPrograms l
  surroundings := Group.initialSurroundings o

theorem find_php : files.find (Group.shippedDir "Php") = .directory (place ["Php"]) := by
  decide +kernel

theorem templateNames_php : Group.templateNames files (Group.shippedDir "Php") = phpFiles.map (·.1) := by
  have hsorted : (phpFiles.map (·.1)).Pairwise (· < ·) := by decide
  have hlisted : files.nodes.filterMap (files.listed? (Group.shippedDir "Php") (place ["Php"])) =
      phpFiles.map (·.1) := by
    decide +kernel
  have hall : (phpFiles.map (·.1)).filter Group.isTemplateName = phpFiles.map (·.1) := by decide +kernel
  rw [Group.templateNames, Files.filesBelow, find_php]
  simp only
  rw [hlisted, Text.sortedSet_of_pairwise hsorted, hall]

theorem return_notMem_header : '\r' ∉ header.toList := by
  unfold header
  simp only [String.toList_append]
  repeat rw [String.toList_ofList]
  decide

theorem return_notMem_literalNames : '\r' ∉ literalNames.toList := by
  unfold literalNames
  simp only [String.toList_append]
  repeat rw [String.toList_ofList]
  decide

theorem return_notMem_ruleNames : '\r' ∉ ruleNames.toList := by
  unfold ruleNames
  simp only [String.toList_append]
  repeat rw [String.toList_ofList]
  decide

theorem return_notMem_serializedAtn : '\r' ∉ serializedAtn.toList := by
  unfold serializedAtn
  simp only [String.toList_append]
  repeat rw [String.toList_ofList]
  decide

/-- Among these files, the templates of the PHP target are as they come with the library. -/
structure Ships (fs : Files) : Prop where
  isDirectory : fs.isDirectory (Group.shippedDir "Php") = .ok true
  templateNames : Group.templateNames fs (Group.shippedDir "Php") = phpFiles.map (·.1)
  source : ∀ f ∈ phpFiles, Group.source fs (Group.shippedDir "Php") f.1 = .ok f.2

theorem findAs_php : ∀ f ∈ phpFiles,
    files.findAs (Files.joinText (Group.shippedDir "Php").text f.1) ((Group.shippedDir "Php").append f.1) =
      .file (place ["Php", f.1]) (.text f.2) := by
  decide +kernel

theorem return_notMem_php : ∀ f ∈ phpFiles, '\r' ∉ f.2.toList := by
  intro f hf
  simp only [phpFiles, List.mem_cons, List.not_mem_nil, or_false] at hf
  rcases hf with rfl | rfl | rfl | rfl
  · exact return_notMem_header
  · exact return_notMem_literalNames
  · exact return_notMem_ruleNames
  · exact return_notMem_serializedAtn

theorem ships_files : Ships files where
  isDirectory := by rw [Files.isDirectory, find_php]
  templateNames := templateNames_php
  source := fun f hf => Group.source_of_findAs (findAs_php f hf) (return_notMem_php f hf)

/-- What a shipped template is compiled to when the group is made. -/
theorem Ships.entry {fs : Files} (h : Ships fs) {o : GroupOptions} {l : Layout} (ho : o.layout = .ok l)
    {name text : String} (hf : (name, text) ∈ phpFiles) {p : Program}
    (hp : compile (Group.initialSurroundings o) l text = .ok p) :
    Group.entry .standard fs "Php" (Group.shippedDir "Php") o name = .ok (name, p) := by
  have hsource : Group.source fs (Group.shippedDir "Php") name = .ok text := h.source (name, text) hf
  have hcompile : Group.compileTemplate .standard fs (Group.shippedDir "Php") o name = .ok p :=
    Group.compileTemplate_eq_ok_iff.mpr ⟨text, l, hsource, ho, hp⟩
  exact Group.entry_eq_ok_iff.mpr ⟨p, hcompile, rfl⟩

/-- The shipped group can be made under all options that say how to lay out a text. -/
theorem Ships.ofDirectory {fs : Files} (h : Ships fs) (o : GroupOptions) (l : Layout) (ho : o.layout = .ok l) :
    Group.ofDirectory fs "Php" (Group.shippedDir "Php") o = .ok (phpGroup o l) := by
  let made (name : String) := Group.entry .standard fs "Php" (Group.shippedDir "Php") o name
  have hheader : made "Header.j2" = .ok ("Header.j2", ⟨headerTree l⟩) :=
    h.entry ho (by simp [phpFiles]) (compile_header _ l)
  have hliteralNames : made "LiteralNames.j2" = .ok ("LiteralNames.j2", ⟨literalNamesTree l⟩) :=
    h.entry ho (by simp [phpFiles]) (compile_literalNames _ l)
  have hruleNames : made "RuleNames.j2" = .ok ("RuleNames.j2", ⟨ruleNamesTree l⟩) :=
    h.entry ho (by simp [phpFiles]) (compile_ruleNames _ l)
  have hserializedAtn : made "SerializedATN.j2" = .ok ("SerializedATN.j2", ⟨serializedAtnTree l⟩) :=
    h.entry ho (by simp [phpFiles]) (compile_serializedAtn _ l)
  have hprograms : (phpFiles.map (·.1)).mapM made = .ok (phpPrograms l) := by
    simp only [phpFiles, List.map_cons, List.map_nil, List.mapM_cons, List.mapM_nil, hheader, hliteralNames,
      hruleNames, hserializedAtn]
    rfl
  rw [Group.ofDirectory_eq_ok_iff, h.templateNames]
  exact ⟨h.isDirectory, by simp [phpFiles], phpPrograms l, l, hprograms, ho, rfl⟩

theorem ofDirectory_php (o : GroupOptions) (l : Layout) (ho : o.layout = .ok l) :
    Group.ofDirectory files "Php" (Group.shippedDir "Php") o = .ok (phpGroup o l) :=
  ships_files.ofDirectory o l ho

/-- A shipped template is rendered by the program of its file, whatever is registered with the group. -/
theorem render_php {name file : String} (hname : Group.fullName name = file) {l : Layout} {p : Program}
    (hp : (phpPrograms l).lookup file = some p) (o : GroupOptions) (rs : List Group.Registration)
    {values : List (String × Value)}
    (hvalues : Group.checkNames "TemplateGroup.render" ["self", "template_name"] values = .ok ()) :
    ((phpGroup o l).after rs).render name values =
      p.render ⟨((phpGroup o l).after rs).surroundings, values, some file⟩ := by
  have hlookup : (phpGroup o l).programs.lookup file = some p := hp
  rw [Group.render, hvalues, Group.find_after hlookup hname]
  rfl

end Emission.Template.Shipped
