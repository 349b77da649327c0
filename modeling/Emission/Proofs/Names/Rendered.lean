import Emission.Proofs.Names.Reading
import Emission.Proofs.Template.Rendering
import Emission.Proofs.Template.Shipped

/-!
# The rendered names

The literal names and the rule names of a grammar are each printed by a shipped template, one name on each
line. Main statement: `names?_render`, reading the output gives the names back, whatever the options and
whatever is registered with the group.
-/

namespace Emission.Names

open Template Template.Shipped

/-! ## Literal names -/

/-- A literal name as the template gets it: a literal of the PHP target, or nothing. -/
def literalValue : Option String → Value
  | none => .none
  | some s => .text (Target.Php.target.strategy.literal "\"" s)

/-- The line of a literal name. -/
def literalLine (l : Layout) (name : Option String) : String :=
  behindTag l "        " ++ written name ++ ",\n"

/-- The text before the literal names. -/
def literalsHead (l : Layout) : String :=
  behindTag l
    "    /**\n     * @var array<string|null>\n     */\n    protected const LITERAL_NAMES = [\n"

/-- The text behind the names. -/
def namesTail (l : Layout) : String := behindTag l (lastLine l "    ];")

/-- A round of the loop prints the line of its name. -/
theorem loopRound_literal (sc : Scene) (l : Layout) (length i : Nat) (name : Option String) :
    loopRound sc {} (.name "literal")
      [.text (behindTag l "        "),
        .print (.choose (.not (.test (.name "literal") "none" [] [] none none)) (.name "literal")
          (some (.const (.text "null"))) 7),
        .text ",\n"] length i (literalValue name) = .ok (literalLine l name) := by
  rw [literalLine, String.append_assoc]
  cases name with
  | none =>
    show Except.ok (behindTag l "        " ++ ("null" ++ (",\n" ++ ""))) = _
    rw [String.append_empty, written]
  | some s =>
    show Except.ok (behindTag l "        " ++
      (Target.Php.target.strategy.literal "\"" s ++ (",\n" ++ ""))) = _
    rw [String.append_empty, written]

theorem render_literalNamesTree (s : Surroundings) (l : Layout) (names : List (Option String))
    (template : Option String) :
    Program.render ⟨literalNamesTree l⟩
        ⟨s, [("literal_names", .list (names.map literalValue))], template⟩ =
      .ok (literalsHead l ++ pieces (fun _ => literalLine l) 0 names ++ namesTail l) := by
  let sc : Scene := ⟨s, [("literal_names", .list (names.map literalValue))], template⟩
  have hitems : Expr.eval sc {} (.name "literal_names") = .ok (.list (names.map literalValue)) := rfl
  exact render_loop_between hitems (fun i name _ => loopRound_literal sc l names.length i name) (literalsHead l)
    (namesTail l)

/-! ## Rule names -/

/-- The line of a rule name. -/
def ruleLine (l : Layout) (name : String) : String := behindTag l "        '" ++ name ++ "',\n"

/-- The text before the rule names. -/
def rulesHead : String := "    public const RULE_NAMES = [\n"

theorem loopRound_rule (sc : Scene) (l : Layout) (length i : Nat) (name : String) :
    loopRound sc {} (.name "name")
      [.text (behindTag l "        '"), .print (.name "name"), .text "',\n"] length i (.text name) =
        .ok (ruleLine l name) := by
  show Except.ok (behindTag l "        '" ++ (name ++ ("',\n" ++ ""))) = _
  rw [String.append_empty, ruleLine, String.append_assoc]

theorem render_ruleNamesTree (s : Surroundings) (l : Layout) (names : List String)
    (template : Option String) :
    Program.render ⟨ruleNamesTree l⟩ ⟨s, [("rule_names", .list (names.map .text))], template⟩ =
      .ok (rulesHead ++ pieces (fun _ => ruleLine l) 0 names ++ namesTail l) := by
  let sc : Scene := ⟨s, [("rule_names", .list (names.map .text))], template⟩
  have hitems : Expr.eval sc {} (.name "rule_names") = .ok (.list (names.map .text)) := rfl
  exact render_loop_between hitems (fun i name _ => loopRound_rule sc l names.length i name) rulesHead
    (namesTail l)

/-! ## Reading them back -/

theorem toList_pieces {α : Type} (line : α → String) (xs : List α) (i : Nat) :
    (pieces (fun _ => line) i xs).toList = xs.flatMap fun x => (line x).toList := by
  induction xs generalizing i with
  | nil => exact String.toList_ofList
  | cons x rest ih => rw [pieces, String.toList_append, ih, List.flatMap_cons]

/-- The head of the literal names ends with the only bracket that opens them. -/
theorem behind?_literalsHead (l : Layout) (rest : List Char) :
    Segment.behind? "LITERAL_NAMES = [".toList ((literalsHead l).toList ++ rest) =
      some ('\n' :: rest) := by
  rw [literalsHead, toList_behindTag, String.toList_ofList, String.toList_ofList]
  split <;> rfl

theorem behind?_rulesHead (rest : List Char) :
    Segment.behind? "RULE_NAMES = [".toList (rulesHead.toList ++ rest) = some ('\n' :: rest) := by
  rw [rulesHead, String.toList_ofList, String.toList_ofList]
  rfl

theorem toList_namesTail (l : Layout) :
    ∃ blanks rest, (∀ c ∈ blanks, Text.isBlank c = true) ∧
      (namesTail l).toList = blanks ++ ']' :: rest := by
  have htail : ("    ];" : String).toList = List.replicate 4 ' ' ++ ']' :: [';'] := String.toList_ofList
  obtain ⟨ending, hlast⟩ := toList_lastLine l "    ];"
  rw [htail, List.append_assoc, List.cons_append] at hlast
  obtain ⟨blanks, hblanks, hprinted⟩ := toList_behindTag_blanks l hlast
  exact ⟨blanks, _, hblanks, hprinted⟩

/-- Lines of names and the tail are read as the names. -/
theorem entries?_printed {α : Type} {read : List Char → Option (α × List Char)} (l : Layout)
    {indent : String} {n : Nat} {opening : List Char}
    (hindent : indent.toList = List.replicate n ' ' ++ opening) {line : α → String}
    {inside : α → List Char}
    (hline : ∀ x, (line x).toList = (behindTag l indent).toList ++ inside x ++ [',', '\n'])
    {xs : List α} (hxs : ∀ x ∈ xs, ReadAs read (opening ++ inside x) x) :
    entries? read ('\n' :: ((pieces (fun _ => line) 0 xs).toList ++ (namesTail l).toList)) =
      some xs := by
  obtain ⟨blanks, hblanks, hbehind⟩ := toList_behindTag_blanks l hindent
  obtain ⟨before, rest, hbefore, htail⟩ := toList_namesTail l
  have hlines : (fun x => (line x).toList) =
      fun x => blanks ++ (opening ++ inside x) ++ [',', '\n'] := by
    funext x
    rw [hline, hbehind, List.append_assoc blanks]
  rw [toList_pieces, htail, hlines]
  exact entries?_lines hblanks (fun x => opening ++ inside x) hxs hbefore rest

theorem literalNames?_printed (l : Layout) (names : List (Option String)) :
    literalNames? (literalsHead l ++ pieces (fun _ => literalLine l) 0 names ++ namesTail l) =
      some names := by
  have hindent : ("        " : String).toList = List.replicate 8 ' ' ++ [] := String.toList_ofList
  have hcomma : (",\n" : String).toList = [',', '\n'] := String.toList_ofList
  have hline (name : Option String) : (literalLine l name).toList =
      (behindTag l "        ").toList ++ (written name).toList ++ [',', '\n'] := by
    rw [literalLine, String.toList_append, String.toList_append, hcomma]
  rw [literalNames?, String.toList_append, String.toList_append, List.append_assoc,
    behind?_literalsHead]
  exact entries?_printed l hindent hline fun name _ => readAs_written name

theorem ruleNames?_printed (l : Layout) {names : List String} (hnames : ∀ n ∈ names, Unescaped n) :
    ruleNames? (rulesHead ++ pieces (fun _ => ruleLine l) 0 names ++ namesTail l) = some names := by
  have hindent : ("        '" : String).toList = List.replicate 8 ' ' ++ ['\''] := String.toList_ofList
  have hcomma : ("',\n" : String).toList = ['\'', ',', '\n'] := String.toList_ofList
  have hline (name : String) : (ruleLine l name).toList =
      (behindTag l "        '").toList ++ (name.toList ++ ['\'']) ++ [',', '\n'] := by
    rw [ruleLine, String.toList_append, String.toList_append, hcomma]
    simp only [List.append_assoc, List.cons_append, List.nil_append]
  rw [ruleNames?, String.toList_append, String.toList_append, List.append_assoc, behind?_rulesHead]
  exact entries?_printed l hindent hline fun name hname => readAs_quoted (hnames name hname)

/-! ## From the names to the file and back -/

/-- Reading the rendered literal names gives back the list of texts and missing texts; reading the rendered
rule names gives back the list of names, if none of them has a single quote or a backslash in it. -/
theorem names?_render (o : GroupOptions) (l : Layout) (ho : o.layout = .ok l) :
    ∃ g : Group, Group.ofDirectory files "Php" (Group.shippedDir "Php") o = .ok g ∧
      ∀ rs : List Group.Registration,
        (∀ literals : List (Option String), ∃ text,
          (g.after rs).render "LiteralNames" [("literal_names", .list (literals.map literalValue))] =
              .ok text ∧
            literalNames? text = some literals) ∧
        ∀ rules : List String, (∀ n ∈ rules, Unescaped n) → ∃ text,
          (g.after rs).render "RuleNames" [("rule_names", .list (rules.map .text))] = .ok text ∧
            ruleNames? text = some rules := by
  have hliteralNames : Group.fullName "LiteralNames" = "LiteralNames.j2" := by decide +kernel
  have hruleNames : Group.fullName "RuleNames" = "RuleNames.j2" := by decide +kernel
  refine ⟨phpGroup o l, ofDirectory_php o l ho, ?_⟩
  intro rs
  constructor
  · intro literals
    refine ⟨_, ?_, literalNames?_printed l literals⟩
    rw [render_php hliteralNames rfl o rs rfl]
    exact render_literalNamesTree _ l literals _
  · intro rules hrules
    refine ⟨_, ?_, ruleNames?_printed l hrules⟩
    rw [render_php hruleNames rfl o rs rfl]
    exact render_ruleNamesTree _ l rules _

/-- A text that looks like a missing name, and one that looks like the end of the array. -/
theorem names?_render_null :
    ({} : GroupOptions).layout = .ok ⟨true, true, true⟩ ∧ Unescaped "a],\nb" ∧
      ∃ (g : Group) (literals rules : String), Group.ofDirectory files "Php" (Group.shippedDir "Php") {} = .ok g ∧
        g.render "LiteralNames" [("literal_names",
          .list ([none, some "null", some "\",\n];"].map literalValue))] = .ok literals ∧
        literalNames? literals = some [none, some "null", some "\",\n];"] ∧
        g.render "RuleNames" [("rule_names", .list (["a],\nb"].map .text))] = .ok rules ∧
        ruleNames? rules = some ["a],\nb"] := by
  have hname : Unescaped "a],\nb" := by
    rw [Unescaped, String.toList_ofList]
    decide
  obtain ⟨g, hg, hrender⟩ := names?_render {} ⟨true, true, true⟩ rfl
  obtain ⟨hliterals, hrules⟩ := hrender []
  obtain ⟨literals, hprinted, hread⟩ := hliterals [none, some "null", some "\",\n];"]
  obtain ⟨rules, hprinted', hread'⟩ := hrules ["a],\nb"] (List.forall_mem_singleton.mpr hname)
  exact ⟨rfl, hname, g, literals, rules, hg, hprinted, hread, hprinted', hread'⟩

end Emission.Names
