import Emission.Proofs.Header.Marks
import Emission.Proofs.Session.Shipped
import Emission.Proofs.Template.Formats
import Emission.Proofs.Template.Rendering

/-!
# The rendered head of a file

The head of a generated file is a comment with the name of the grammar file, formatted in the escape mode of the run,
and the version of the target; the line of a namespace may follow. Nothing keeps these values from closing the comment
but the format of query strings. Main statement: `comment?_render`, the comment that a reader finds is the one that
the template writes exactly if neither the formatted name nor the version closes it; `comment?_render_closed` shows a
name that does.
-/

namespace Emission.Header

open Escape (Format Renderers)
open Session (buildGroup groupOptions)
open Template (Expr Group Layout Program Scene Statement Surroundings runAll runAll_append runBranches run_print
  run_text)
open Template.Group (eval_fmt modeValue)
open Template.Shipped (Ships behindTag headerTree phpGroup toList_behindTag)

/-! ## What the template prints -/

/-- The values that a head is rendered with. -/
def headerValues (file version : String) (space : Option Value) : List (String × Value) :=
  [("grammar_file_name", .text file), ("target_version", .text version)] ++
    (space.map fun v => ("php_namespace", v)).toList

/-- The inside of the comment. -/
def printedInside (shown version : String) : String :=
  "\n * Generated from " ++ shown ++ " by targetkit " ++ version ++ "\n "

/-- The text of a namespace as it is printed, which has to be a true value for that. A value that cannot be written
out cannot be printed either. -/
def printedSpace (space : Option Value) : Except Misuse (Option String) :=
  match space.filter Value.truthy with
  | none => .ok none
  | some v => v.shown.map some

/-- The end of the last line. -/
def lastBreak (l : Layout) : String := if l.trimBlocks || !l.keepTrailingNewline then "" else "\n"

/-- The line of a namespace. -/
def printedLine (l : Layout) (name : Option String) : String :=
  name.elim "" fun shown => behindTag l "\nnamespace " ++ shown ++ ";\n"

/-- The text behind the comment. -/
def printedBehind (l : Layout) (name : Option String) : String := "\n" ++ printedLine l name ++ lastBreak l

section

variable {s : Surroundings} (file version : String) (space : Option Value) (template : Option String)

/-- A text is rendered with the name of the file, the version and maybe a namespace. -/
def headerScene (s : Surroundings) (file version : String) (space : Option Value) (template : Option String) : Scene :=
  ⟨s, headerValues file version space, template⟩

/-- The line of the namespace is printed if the namespace is a true value. -/
theorem run_space (hspace : s.globals.lookup "php_namespace" = none) (l : Layout) :
    (Statement.choose
        [(.name "php_namespace",
          [.text (behindTag l "\nnamespace "), .print (.name "php_namespace"), .text ";\n"])] []).run
        (headerScene s file version space template) {} =
      ((printedSpace space).map fun name => (printedLine l name, {})).mapError .misuse := by
  cases space with
  | none =>
    have hvalue : Expr.eval (headerScene s file version none template) {} (.name "php_namespace") =
        .ok (.unbound s.showAbsent "php_namespace") := by
      show Except.ok (Option.getD (s.globals.lookup "php_namespace") _) = _
      rw [hspace]
      rfl
    rw [Statement.run, runBranches, hvalue]
    rfl
  | some v =>
    have hvalue : Expr.eval (headerScene s file version (some v) template) {} (.name "php_namespace") = .ok v := rfl
    rw [Statement.run, runBranches, hvalue, ok_bind, printedSpace, Option.filter_some]
    by_cases hv : v.truthy = true
    · rw [if_pos hv, if_pos hv]
      simp only [runAll, run_text, run_print hvalue, ok_bind]
      cases v.shown with
      | error m => rfl
      | ok shown => simp [printedLine, Except.map, String.append_assoc]
    · rw [if_neg hv, if_neg hv]
      rfl

/-- Texts that are cut elsewhere. It is stated of any texts, since comparing two that are written out is slow. -/
theorem append_parts {first opening start middle last ending close next : String} (hfirst : first = opening ++ start)
    (hlast : last = ending ++ (close ++ next)) (shown version line tail : String) :
    first ++ (shown ++ (middle ++ (version ++ (last ++ line)))) ++ tail =
      opening ++ (start ++ shown ++ middle ++ version ++ ending) ++ close ++ (next ++ line ++ tail) := by
  simp only [hfirst, hlast, String.append_assoc]

/-- The template prints the comment and what stands behind it, if the namespace can be written out. -/
theorem render_headerTree {mode : Option String}
    (hmode : s.globals.lookup "escape_mode" = some (modeValue mode))
    (hspace : s.globals.lookup "php_namespace" = none) (l : Layout) :
    Program.render ⟨headerTree l⟩ (headerScene s file version space template) =
      ((printedSpace space).map fun name =>
        "<?php\n\n/*" ++ printedInside (s.renderers.formatText file (mode.getD "")) version ++ "*/" ++
          printedBehind l name).mapError .misuse := by
  let sc : Scene := headerScene s file version space template
  -- the values do not hide the mode, which is known to every template
  have hknown : Expr.eval sc {} (.name "escape_mode") = .ok (modeValue mode) := by
    have hvalues : (headerValues file version space).lookup "escape_mode" = none := by cases space <;> rfl
    simp only [Expr.eval, Scene.resolve, sc, headerScene, List.lookup_nil, hvalues, hmode, Option.getD_some]
  have hshown : Expr.eval sc {} (.filter (.name "grammar_file_name") "fmt" [.name "escape_mode"] [] none none) =
      .ok (.text (s.renderers.formatText file (mode.getD ""))) := by
    have hvalue : Expr.eval sc {} (.name "grammar_file_name") = .ok (.text file) := rfl
    rw [eval_fmt hvalue hknown, Renderers.format_text]
    rfl
  have hversion : Expr.eval sc {} (.name "target_version") = .ok (.text version) := rfl
  have hline := run_space file version space template hspace l
  have hlast : runAll sc {} (if l.trimBlocks || !l.keepTrailingNewline then [] else [.text "\n"]) =
      .ok (lastBreak l, {}) := by
    rw [lastBreak]
    split <;> rfl
  rw [Program.render, headerTree, runAll_append]
  simp only [runAll, run_text, run_print hshown, run_print hversion, hline, sc, ok_bind, pure_eq_ok, Except.map,
    mapError_ok, Value.shown_text, String.append_empty]
  cases printedSpace space with
  | error m => rfl
  | ok name =>
    simp only [mapError_ok, ok_bind, hlast, sc]
    exact congrArg Except.ok (append_parts (by decide) (by decide) _ version _ _)

end

/-! ## Reading it -/

theorem behind?_opening (inside after : String) :
    Segment.behind? "/*".toList ("<?php\n\n/*" ++ inside ++ "*/" ++ after).toList =
      some (inside.toList ++ '*' :: '/' :: after.toList) := by
  have hopening : ("/*" : String).toList = ['/', '*'] := String.toList_ofList
  have hhead : ("<?php\n\n/*" : String).toList = ['<', '?', 'p', 'h', 'p', '\n', '\n', '/', '*'] :=
    String.toList_ofList
  have hend : ("*/" : String).toList = ['*', '/'] := String.toList_ofList
  simp only [String.toList_append, List.append_assoc, hopening, hhead, hend]
  rfl

/-- A character that is no mark stands on either side of each value, so no end of a comment is formed where a value
meets the text of the template. -/
theorem closes_printedInside_iff (shown version : String) :
    Closes (printedInside shown version).toList ↔ Closes shown.toList ∨ Closes version.toList := by
  have hfirst : "\n * Generated from ".toList = "\n * Generated from".toList ++ [' '] := by decide
  have hmiddle : " by targetkit ".toList = ' ' :: ("by targetkit".toList ++ [' ']) := by decide
  have hlast : "\n ".toList = '\n' :: [' '] := by decide
  have hparts : (printedInside shown version).toList = "\n * Generated from".toList ++ ' ' ::
      (shown.toList ++ ' ' :: ("by targetkit".toList ++ ' ' :: (version.toList ++ '\n' :: [' ']))) := by
    unfold printedInside
    rw [String.toList_append, String.toList_append, String.toList_append, String.toList_append, hfirst, hmiddle, hlast]
    simp only [List.append_assoc, List.cons_append, List.nil_append]
  have hfrom : ¬ Closes "\n * Generated from".toList := by decide
  have hby : ¬ Closes "by targetkit".toList := by decide
  have hblank : ¬ Closes [' '] := by decide
  rw [hparts]
  unfold Closes at hfrom hby hblank ⊢
  rw [infix_append_cons_iff (by decide), infix_append_cons_iff (by decide), infix_append_cons_iff (by decide),
    infix_append_cons_iff (by decide)]
  simp only [hfrom, hby, hblank, false_or, or_false]

/-- A reader finds the comment that was printed exactly if neither value closes it. -/
theorem comment?_printed_iff (shown version behind : String) :
    comment? ("<?php\n\n/*" ++ printedInside shown version ++ "*/" ++ behind) =
        some (printedInside shown version, behind) ↔
      ¬ Closes shown.toList ∧ ¬ Closes version.toList := by
  have hread := comment?_eq_some_iff (behind?_opening (printedInside shown version) behind)
  exact hread.trans ((not_congr (closes_printedInside_iff shown version)).trans not_or)

/-- The line of a namespace is read as what it was printed with, and nothing else is read as such a line. -/
theorem spaceLine?_printedBehind (l : Layout) (name : Option String) :
    spaceLine? (printedBehind l name) = name.map fun shown => shown ++ ";\n" ++ lastBreak l := by
  have hbreak : "\n".toList = ['\n'] := String.toList_ofList
  have hkeyword : "\nnamespace ".toList = '\n' :: "namespace ".toList := by decide
  unfold spaceLine? printedBehind printedLine
  cases name with
  | none =>
    have hlast : (lastBreak l).toList.dropWhile Text.isBlank = [] := by
      rw [lastBreak]
      split
      · rfl
      · rw [hbreak]
        rfl
    rw [Option.elim_none, String.append_empty, String.toList_append, hbreak, List.singleton_append,
      List.dropWhile_cons_of_pos rfl, hlast]
    rfl
  | some shown =>
    -- what stands between the comment and the keyword is blank, whether or not line feeds behind tags are cut
    have hblanks : ∀ c ∈ '\n' :: ((if l.trimBlocks then [] else ['\n']) ++ ['\n']), Text.isBlank c = true := by
      split
      · exact List.all_eq_true.mp (by decide)
      · exact List.all_eq_true.mp (by decide)
    have hparts : ("\n" ++ (behindTag l "\nnamespace " ++ shown ++ ";\n") ++ lastBreak l).toList =
        ('\n' :: ((if l.trimBlocks then [] else ['\n']) ++ ['\n'])) ++
          ("namespace ".toList ++ (shown ++ ";\n" ++ lastBreak l).toList) := by
      simp only [String.toList_append, toList_behindTag, hbreak, hkeyword, List.append_assoc, List.cons_append,
        List.nil_append]
    have hletter : ("namespace ".toList ++ (shown ++ ";\n" ++ lastBreak l).toList).dropWhile Text.isBlank =
        "namespace ".toList ++ (shown ++ ";\n" ++ lastBreak l).toList := by
      have hfirst : "namespace ".toList = 'n' :: "amespace ".toList := by decide
      rw [hfirst]
      exact List.dropWhile_cons_of_neg (by decide)
    rw [Option.elim_some, hparts, List.dropWhile_append_of_pos hblanks, hletter, Text.dropPrefix?_eq_some.mpr rfl,
      Option.map_some, String.ofList_toList]
    rfl

/-! ## In a loaded group -/

/-- A text that no renderer takes is shown in the format of the mode. -/
theorem closes_formatText_iff {renderers : Renderers} {mode : Option String}
    (h : List.lookup (mode.getD "") renderers = none) (file : String) :
    Closes (renderers.formatText file (mode.getD "")).toList ↔ Closes file.toList ∧ mode ≠ some Format.query.name := by
  have hquery : mode.getD "" ≠ Format.query.name ↔ mode ≠ some Format.query.name := by
    cases mode with
    | none => exact iff_of_true (by decide) (by decide)
    | some m => exact not_congr Option.some_inj.symm
  rw [Renderers.formatText, h]
  exact (closes_formatValue_iff file (mode.getD "")).trans (and_congr_right fun _ => hquery)

theorem closes_formatText_reescape_iff {renderers : Renderers} {mode : String}
    (h : List.lookup mode renderers = some Escape.reescape) (file : String) :
    Closes (renderers.formatText file mode).toList ↔ Closes file.toList := by
  rw [Renderers.formatText, h, Escape.toList_reescape]
  exact (marksKept_reescapeChars file.toList).closes_iff

/-- Registrations of renderers. -/
def registrations (renderers : Renderers) : List Group.Registration := renderers.map fun r => .renderer r.1 r.2

/-- The group of the shipped templates as a target makes it for a run, with renderers that are added afterwards. -/
def loaded (t : Target) (o : Options) (l : Layout) (added : Renderers) : Group :=
  (phpGroup (groupOptions o) l).after
    (registrations t.strategy.renderers ++ [.constant "escape_mode" o.escapeMode] ++ registrations added)

section

variable {s : Session} {t : Target} {o : Options} {l : Layout} {mode : Option String}

/-- A session that has the shipped templates makes their group under all options that say how to lay out a text. -/
theorem exists_buildGroup_loaded (hships : Ships s.files) (hname : t.name = "Php")
    (hmodes : "" ∉ t.strategy.renderers.modes) (hdir : o.templateDir.truthy = false)
    (hlayout : (groupOptions o).layout = .ok l) :
    ∃ place s', s.perform (buildGroup t o) = (.ok place, s') ∧ s'.groups.get? place = some (loaded t o l []) := by
  rw [loaded, registrations, registrations, List.map_nil, List.append_nil]
  exact Session.exists_buildGroup hships hname hmodes hdir hlayout

/-- Of the names known to the templates of a loaded group, only the escape mode is not there from the start. -/
theorem globals_loaded (added : Renderers) :
    (loaded t o l added).surroundings.globals = [("range", .rangeBuilder), ("escape_mode", o.escapeMode)] := by
  rw [loaded, Group.after_append, registrations, registrations, Group.globals_after_renderers, Group.after_append]
  show Entries.put "escape_mode" o.escapeMode (Group.after _ _).surroundings.globals = _
  rw [Group.globals_after_renderers]
  rfl

theorem render_loaded (hmode : o.escapeMode = modeValue mode) (added : Renderers) (file version : String)
    (space : Option Value) :
    (loaded t o l added).render "Header" (headerValues file version space) =
      ((printedSpace space).map fun name =>
        "<?php\n\n/*" ++
          printedInside ((loaded t o l added).surroundings.renderers.formatText file (mode.getD "")) version ++ "*/" ++
          printedBehind l name).mapError .misuse := by
  have hglobals := globals_loaded (t := t) (o := o) (l := l) added
  rw [hmode] at hglobals
  have hfull : Group.fullName "Header" = "Header.j2" := by decide +kernel
  have hvalues : Group.checkNames "TemplateGroup.render" ["self", "template_name"]
      (headerValues file version space) = .ok () := by
    cases space <;> rfl
  calc (loaded t o l added).render "Header" (headerValues file version space)
    _ = Program.render ⟨headerTree l⟩
        (headerScene (loaded t o l added).surroundings file version space (some "Header.j2")) :=
      Template.Shipped.render_php hfull rfl (groupOptions o) _ hvalues
    _ = _ := render_headerTree file version space _ (by rw [hglobals]; rfl) (by rw [hglobals]; rfl) l

/-- The templates of the PHP target are loaded, and the head can be rendered with all names and versions and with each
namespace that can be written out, whatever the layout, the escape mode and the renderers that are registered. The
comment that a reader finds in it is the one that the template writes exactly if neither the name of the grammar file,
as it is shown in the escape mode, nor the version has the end of a comment in it. Without a renderer for the mode, a
name that is shown has one exactly if the name itself has one, but for the form of a query string, which never has; and
re-escaping leaves it there. Behind the comment, the line of the namespace is there exactly if the namespace is a true
value. -/
theorem comment?_render (hships : Ships s.files) (hname : t.name = "Php") (hmodes : "" ∉ t.strategy.renderers.modes)
    (hdir : o.templateDir.truthy = false) (hlayout : (groupOptions o).layout = .ok l)
    (hmode : o.escapeMode = modeValue mode) :
    (∃ place s', s.perform (buildGroup t o) = (.ok place, s') ∧
        s'.groups.get? place = some (loaded t o l [])) ∧
      ∀ (added : Renderers) (file version : String) (space : Option Value),
        let g := loaded t o l added
        ∃ shown, g.format (.text file) (mode.getD "") = .ok shown ∧
          (∀ name, printedSpace space = .ok name →
            ∃ text after, g.render "Header" (headerValues file version space) = .ok text ∧
              text = "<?php\n\n/*" ++ printedInside shown version ++ "*/" ++ after ∧
              (comment? text = some (printedInside shown version, after) ↔
                ¬ Closes shown.toList ∧ ¬ Closes version.toList) ∧
              spaceLine? after = name.map fun name => name ++ ";\n" ++ lastBreak l) ∧
          (∀ m, printedSpace space = .error m →
            g.render "Header" (headerValues file version space) = .error (.misuse m)) ∧
          (List.lookup (mode.getD "") g.surroundings.renderers = none →
            (Closes shown.toList ↔ Closes file.toList ∧ mode ≠ some Format.query.name)) ∧
          (List.lookup (mode.getD "") g.surroundings.renderers = some Escape.reescape →
            (Closes shown.toList ↔ Closes file.toList)) := by
  refine ⟨exists_buildGroup_loaded hships hname hmodes hdir hlayout, fun added file version space => ?_⟩
  intro g
  let shown : String := g.surroundings.renderers.formatText file (mode.getD "")
  have hrender := render_loaded hmode added file version space (t := t) (l := l)
  refine ⟨shown, Renderers.format_text _ _ _, fun name hspace => ?_, fun m hspace => ?_,
    fun hnone => closes_formatText_iff hnone file, fun hsome => closes_formatText_reescape_iff hsome file⟩
  · rw [hspace] at hrender
    exact ⟨_, printedBehind l name, hrender, rfl, comment?_printed_iff shown version _, spaceLine?_printedBehind l name⟩
  · rw [hspace] at hrender
    exact hrender

end

/-- In the form of a query string, a name with the end of a comment in it stays inside. -/
theorem comment?_render_query :
    let o : Options := { escapeMode := .text "url-encode" }
    let g := loaded Target.Php.target o ⟨true, true, true⟩ []
    Ships Session.initial.files ∧
      (∃ place s', Session.initial.perform (buildGroup Target.Php.target o) = (.ok place, s') ∧
        s'.groups.get? place = some g) ∧
      ∃ text after, g.render "Header" (headerValues "a*/b" "4.7.2" (some (.text "App"))) = .ok text ∧
        (∃ shown, g.format (.text "a*/b") "url-encode" = .ok shown ∧
          comment? text = some (printedInside shown "4.7.2", after)) ∧
        spaceLine? after = some "App;\n" := by
  intro o g
  have hships : Ships Session.initial.files := Template.Shipped.ships_files
  have hlayout : (groupOptions o).layout = .ok ⟨true, true, true⟩ := rfl
  have hmode : o.escapeMode = modeValue (some "url-encode") := rfl
  have hmodes : "" ∉ Target.Php.target.strategy.renderers.modes := by decide
  obtain ⟨hbuilt, hrender⟩ := comment?_render hships rfl hmodes rfl hlayout hmode
  obtain ⟨shown, hshown, hprinted, -, hopen, -⟩ := hrender [] "a*/b" "4.7.2" (some (.text "App"))
  obtain ⟨text, after, htext, -, hread, hspace⟩ := hprinted (some "App") rfl
  have hcloses : ¬ Closes shown.toList := fun hcloses => ((hopen rfl).mp hcloses).2 rfl
  refine ⟨hships, hbuilt, text, after, htext, ⟨shown, hshown, hread.mpr ⟨hcloses, by decide⟩⟩, ?_⟩
  rw [hspace]
  decide

/-- In the mode that is configured by default, a name with the end of a comment in it closes the comment. -/
theorem comment?_render_closed :
    let g := loaded Target.Php.target {} ⟨true, true, true⟩ []
    (∃ place s', Session.initial.perform (buildGroup Target.Php.target {}) = (.ok place, s') ∧
        s'.groups.get? place = some g) ∧
      ∃ text, g.render "Header" (headerValues "a*/b" "4.7.2" none) = .ok text ∧
        comment? text = some ("\n * Generated from a", "b by targetkit 4.7.2\n */\n") := by
  intro g
  have hships : Ships Session.initial.files := Template.Shipped.ships_files
  have hmode : ({} : Options).escapeMode = modeValue (some "java-escape") := rfl
  refine ⟨exists_buildGroup_loaded hships rfl (by decide) rfl rfl, _, render_loaded hmode [] "a*/b" "4.7.2" none, ?_⟩
  decide +kernel

end Emission.Header
