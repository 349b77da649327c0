import Emission.Proofs.Escape.Literal
import Emission.Proofs.Segment.Reading

/-!
# Reading arrays of names

What a reader of generated code makes of the arrays in which literal names and rule names are kept: it
finds the array, passes over white space and reads entries up to the closing bracket, with a comma behind
each of them. A literal name is the bare word `null` or a literal between double quotes, a rule name stands
between single quotes. Main statement: `entries?_lines`, entries that can be read one by one are read
together; `readAs_written` and `readAs_quoted` say so of the two kinds of names.
-/

namespace Emission.Names

/-! ## Arrays of entries -/

section Entries

variable {α : Type}

/-- What follows the blanks at the beginning of a text. -/
def skipBlanks (cs : List Char) : List Char := cs.dropWhile Text.isBlank

/-- An entry and what follows the comma behind it. -/
def item? (read : List Char → Option (α × List Char)) (cs : List Char) : Option (α × List Char) :=
  (read cs).bind fun (x, after) =>
    match skipBlanks after with
    | ',' :: rest => some (x, rest)
    | _ => none

/-- The entries up to the closing bracket. An entry that takes nothing from the text is none. -/
def entries? (read : List Char → Option (α × List Char)) (cs : List Char) : Option (List α) :=
  if (skipBlanks cs).head? = some ']' then some []
  else
    match item? read (skipBlanks cs) with
    | none => none
    | some (x, rest) =>
      if _h : rest.length < cs.length then (entries? read rest).map (x :: ·) else none
termination_by cs.length

theorem skipBlanks_append {blanks : List Char} (hblanks : ∀ c ∈ blanks, Text.isBlank c = true)
    (cs : List Char) : skipBlanks (blanks ++ cs) = skipBlanks cs := by
  rw [skipBlanks, skipBlanks, List.dropWhile_append_of_pos hblanks]

theorem skipBlanks_cons {c : Char} (hc : Text.isBlank c = false) (cs : List Char) :
    skipBlanks (c :: cs) = c :: cs :=
  List.dropWhile_cons_of_neg (by rw [hc]; exact Bool.false_ne_true)

/-- Nothing is read behind the closing bracket. -/
theorem entries?_close {blanks : List Char} (hblanks : ∀ c ∈ blanks, Text.isBlank c = true)
    (read : List Char → Option (α × List Char)) (rest : List Char) :
    entries? read (blanks ++ ']' :: rest) = some [] := by
  have hclose : Text.isBlank ']' = false := by decide
  rw [entries?, skipBlanks_append hblanks, skipBlanks_cons hclose]
  exact if_pos rfl

/-- What is read as an entry, from in front of any other text. It begins with neither a blank nor the
closing bracket. -/
structure ReadAs (read : List Char → Option (α × List Char)) (written : List Char) (x : α) : Prop where
  head : ∃ first more, written = first :: more ∧ Text.isBlank first = false ∧ first ≠ ']'
  append : ∀ rest, read (written ++ rest) = some (x, rest)

/-- An entry between blanks and a comma is read in front of what follows. -/
theorem entries?_append {read : List Char → Option (α × List Char)} {blanks written : List Char}
    (hblanks : ∀ c ∈ blanks, Text.isBlank c = true) {x : α} (hwritten : ReadAs read written x)
    (rest : List Char) :
    entries? read (blanks ++ (written ++ ',' :: rest)) = (entries? read rest).map (x :: ·) := by
  obtain ⟨first, more, hfirst, hblank, hclose⟩ := hwritten.head
  have hskip : skipBlanks (blanks ++ (written ++ ',' :: rest)) = written ++ ',' :: rest := by
    rw [skipBlanks_append hblanks, hfirst, List.cons_append, skipBlanks_cons hblank]
  have hitem : item? read (written ++ ',' :: rest) = some (x, rest) := by
    have hcomma : skipBlanks (',' :: rest) = ',' :: rest := skipBlanks_cons (by decide) rest
    rw [item?, hwritten.append, Option.bind_some]
    simp only [hcomma]
  have hopen : ¬ (written ++ ',' :: rest).head? = some ']' := by
    rw [hfirst, List.cons_append, List.head?_cons, Option.some_inj]
    exact hclose
  have hshorter : rest.length < (blanks ++ (written ++ ',' :: rest)).length := by
    simp only [List.length_append, List.length_cons]
    omega
  rw [entries?, hskip, if_neg hopen, hitem]
  exact dif_pos hshorter

/-- Entries on lines of their own are read up to the bracket behind the last one. -/
theorem entries?_lines {read : List Char → Option (α × List Char)} {blanks : List Char}
    (hblanks : ∀ c ∈ blanks, Text.isBlank c = true) (written : α → List Char) {xs : List α}
    (hwritten : ∀ x ∈ xs, ReadAs read (written x) x) {before : List Char}
    (hbefore : ∀ c ∈ before, Text.isBlank c = true) (rest : List Char) :
    entries? read ('\n' :: (xs.flatMap (fun x => blanks ++ written x ++ [',', '\n']) ++
      (before ++ ']' :: rest))) = some xs := by
  have hnewline : Text.isBlank '\n' = true := by decide
  induction xs with
  | nil => exact entries?_close (List.forall_mem_cons.mpr ⟨hnewline, hbefore⟩) read rest
  | cons x more ih =>
    have hmore := ih fun y hy => hwritten y (List.mem_cons_of_mem x hy)
    have hread := entries?_append (List.forall_mem_cons.mpr ⟨hnewline, hblanks⟩)
      (hwritten x List.mem_cons_self)
      ('\n' :: (more.flatMap (fun x => blanks ++ written x ++ [',', '\n']) ++ (before ++ ']' :: rest)))
    rw [hmore, Option.map_some] at hread
    simpa only [List.flatMap_cons, List.append_assoc, List.cons_append, List.nil_append] using hread

end Entries

/-! ## Literal names -/

/-- The bare word `null`, or a literal of the PHP target. -/
def literalName? (cs : List Char) : Option (Option String × List Char) :=
  match Text.dropPrefix? "null".toList cs with
  | some rest => some (none, rest)
  | none =>
    (Escape.readLiteral? Target.Php.shortEscapes '"' cs).map fun (s, rest) => (some s, rest)

/-- The literal names of a generated file. -/
def literalNames? (s : String) : Option (List (Option String)) :=
  (Segment.behind? "LITERAL_NAMES = [".toList s.toList).bind (entries? literalName?)

/-- A name as the array has it. -/
def written : Option String → String
  | none => "null"
  | some s => Target.Php.target.strategy.literal "\"" s

/-- What the PHP target writes for a text is read back, whatever follows. -/
theorem readLiteral?_literal (s : String) (rest : List Char) :
    Escape.readLiteral? Target.Php.shortEscapes '"'
      ((Target.Php.target.strategy.literal "\"" s).toList ++ rest) = some (s, rest) := by
  have hinside := Escape.pieces?_flatMap_escapeChar Escape.readable_shortEscapes_php .units s.toList rest
  have hquote : ("\"" : String).toList = ['"'] := String.toList_ofList
  have hliteral : (Target.Php.target.strategy.literal "\"" s).toList ++ rest =
      '"' :: (s.toList.flatMap (Escape.escapeChar .units Target.Php.shortEscapes "\"") ++
        '"' :: rest) := by
    rw [Escape.Strategy.literal, Escape.toList_escapeString, hquote, List.append_assoc,
      List.append_assoc]
    rfl
  have hpieces : Escape.pieces? Target.Php.shortEscapes '"'
      (s.toList.flatMap (Escape.escapeChar .units Target.Php.shortEscapes "\"") ++ '"' :: rest) =
        some (s.toList.flatMap (Escape.charPieces .units Target.Php.shortEscapes '"'), rest) := hinside
  rw [hliteral, Escape.readLiteral?, if_pos rfl, hpieces]
  simp only [Option.bind_eq_bind, Option.bind_some, Escape.joinPieces_flatMap_charPieces,
    Escape.textOf?_map_toNat, String.ofList_toList, Option.pure_def]

theorem toList_written_some (s : String) :
    ∃ more, (written (some s)).toList = '"' :: more := by
  have hquote : ("\"" : String).toList = ['"'] := String.toList_ofList
  rw [written, Escape.Strategy.literal, Escape.toList_escapeString, hquote, List.append_assoc,
    List.singleton_append]
  exact ⟨_, rfl⟩

/-- A written name is read back. A literal begins with a quote, so even the literal of the text `null` is
not taken for the bare word. -/
theorem readAs_written (name : Option String) : ReadAs literalName? (written name).toList name where
  head := by
    cases name with
    | none => exact ⟨'n', ['u', 'l', 'l'], String.toList_ofList, by decide, by decide⟩
    | some s =>
      obtain ⟨more, hmore⟩ := toList_written_some s
      exact ⟨'"', more, hmore, by decide, by decide⟩
  append := by
    intro rest
    cases name with
    | none =>
      have hnull : Text.dropPrefix? "null".toList ("null".toList ++ rest) = some rest :=
        Text.dropPrefix?_eq_some.mpr rfl
      rw [literalName?, written, hnull]
    | some s =>
      have hread : Escape.readLiteral? Target.Php.shortEscapes '"' ((written (some s)).toList ++ rest) =
          some (s, rest) := readLiteral?_literal s rest
      have hnull : Text.dropPrefix? "null".toList ((written (some s)).toList ++ rest) = none := by
        obtain ⟨more, hmore⟩ := toList_written_some s
        rw [hmore, String.toList_ofList]
        rfl
      rw [literalName?, hnull]
      simp only [hread, Option.map_some]

/-! ## Rule names -/

/-- What stands in front of the closing single quote, and what follows it. Only quotes and backslashes are
escaped, by a backslash. -/
def quotedChars? : List Char → Option (List Char × List Char)
  | [] => none
  | '\'' :: rest => some ([], rest)
  | '\\' :: '\'' :: rest => (quotedChars? rest).map fun found => ('\'' :: found.1, found.2)
  | '\\' :: '\\' :: rest => (quotedChars? rest).map fun found => ('\\' :: found.1, found.2)
  | c :: rest => (quotedChars? rest).map fun found => (c :: found.1, found.2)

/-- A name between single quotes. -/
def ruleName? : List Char → Option (String × List Char)
  | '\'' :: rest => (quotedChars? rest).map fun found => (.ofList found.1, found.2)
  | _ => none

/-- The rule names of a generated file. -/
def ruleNames? (s : String) : Option (List String) :=
  (Segment.behind? "RULE_NAMES = [".toList s.toList).bind (entries? ruleName?)

/-- A name that needs no escapes between single quotes. -/
def Unescaped (name : String) : Prop := '\'' ∉ name.toList ∧ '\\' ∉ name.toList

theorem quotedChars?_append {cs : List Char} (hquote : '\'' ∉ cs) (hslash : '\\' ∉ cs)
    (rest : List Char) : quotedChars? (cs ++ '\'' :: rest) = some (cs, rest) := by
  induction cs with
  | nil => rfl
  | cons c more ih =>
    obtain ⟨hc, hmore⟩ := not_or.mp (mt List.mem_cons.mpr hquote)
    obtain ⟨hc', hmore'⟩ := not_or.mp (mt List.mem_cons.mpr hslash)
    have hstep : quotedChars? (c :: (more ++ '\'' :: rest)) =
        (quotedChars? (more ++ '\'' :: rest)).map fun found => (c :: found.1, found.2) := by
      rw [quotedChars?]
      · exact fun h => hc h.symm
      · exact fun _ h _ => hc' h.symm
      · exact fun _ h _ => hc' h.symm
    rw [List.cons_append, hstep, ih hmore hmore']
    rfl

/-- A name between single quotes is read back. -/
theorem readAs_quoted {name : String} (hname : Unescaped name) :
    ReadAs ruleName? ('\'' :: (name.toList ++ ['\''])) name where
  head := ⟨'\'', _, rfl, by decide, by decide⟩
  append := by
    intro rest
    rw [List.cons_append, List.append_assoc, List.singleton_append, ruleName?,
      quotedChars?_append hname.1 hname.2, Option.map_some, String.ofList_toList]

end Emission.Names
