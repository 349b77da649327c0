import Emission.Proofs.Segment.Reading
import Emission.Proofs.Template.Rendering
import Emission.Proofs.Template.Shipped
import Emission.Segment

/-!
# The rendered table

A serialized table is cut into segments and printed by a shipped template, one array for each segment. Main
statement: `mergedArrays?_render`, reading the output gives the segments back, whatever the options and
whatever is registered with the group, unless one of the integers is too long to be written out.
-/

namespace Emission.Segment

open Template Template.Shipped

/-! ## What the template prints -/

/-- Segments as a template gets them. -/
def segmentsValue (segments : List (List Int)) : Value :=
  .list (segments.map fun segment => .list (segment.map .int))

/-- The line of one segment. -/
def printedSegment (l : Layout) (last : Bool) (segment : List Int) : String :=
  behindTag l "            [" ++ ", ".intercalate (segment.map toString) ++ "]" ++
    (if last then "" else ",") ++ "\n"

/-- The lines of segments, of which the first is number `index` of so many. -/
def printedSegments (l : Layout) (length index : Nat) (segments : List (List Int)) : String :=
  pieces (fun i segment => printedSegment l (decide (i + 1 = length)) segment) index segments

/-- The text before the segments. -/
def printedHead (l : Layout) : String :=
  behindTag l
    "    private static function serializedAtn(): array\n    \x7b\n        return \\array_merge(\n"

/-- The text behind the segments. -/
def printedTail (l : Layout) : String := behindTag l (lastLine l "        );\n    \x7d")

def printedTable (l : Layout) (segments : List (List Int)) : String :=
  printedHead l ++ printedSegments l segments.length 0 segments ++ printedTail l

/-- The statements that the template repeats. -/
def segmentBody (l : Layout) : List Statement :=
  [.text (behindTag l "            ["),
    .print (.filter (.name "segment") "join_commas" [] [] none none),
    .text "]",
    .print (.choose (.not (.member (.name "loop") "last")) (.const (.text ","))
      (some (.const (.text ""))) 6),
    .text "\n"]

/-! ## Writing integers out -/

theorem shown_int (n : Int) :
    (Value.int n).shown = if Value.IsLegible n then .ok (toString n) else .error .longInteger := by
  simp [Value.shown, Value.written, Value.isLegible]

theorem mapM_shown_int {ns : List Int} (h : ∀ n ∈ ns, Value.IsLegible n) :
    (ns.map Value.int).mapM Value.shown = .ok (ns.map toString) := by
  induction ns with
  | nil => rfl
  | cons n rest ih =>
    rw [List.forall_mem_cons] at h
    rw [List.map_cons, List.mapM_cons, shown_int, if_pos h.1, ih h.2]
    rfl

theorem mapM_shown_int_error {ns : List Int} (h : ∃ n ∈ ns, ¬Value.IsLegible n) :
    (ns.map Value.int).mapM Value.shown = .error .longInteger := by
  induction ns with
  | nil => simp at h
  | cons n rest ih =>
    rw [List.map_cons, List.mapM_cons, shown_int]
    -- the first that is too long may be this one or stand behind it
    by_cases hn : Value.IsLegible n
    · rw [if_pos hn, ok_bind, ih (by simpa [hn] using h)]
      rfl
    · rw [if_neg hn]
      rfl

/-! ## Rendering it -/

variable (sc : Scene) (l : Layout) (segment : List Int) (index length : Nat)

/-- What is bound inside a round. -/
def roundFrame : Frame :=
  ⟨[("loop", .loop index length), ("segment", .list (segment.map .int))], ""⟩

/-- The items of a segment are written out one behind the other. -/
theorem eval_segment :
    Expr.eval sc (roundFrame segment index length)
      (.filter (.name "segment") "join_commas" [] [] none none) =
        ((segment.map Value.int).mapM Value.shown |>.map fun shown =>
          Value.text (", ".intercalate shown)).mapError .misuse := by
  have hsubject : sc.resolve (roundFrame segment index length) "segment" =
      .list (segment.map .int) := rfl
  rw [Expr.eval, Expr.eval, hsubject]
  show ((do return .text (Value.commaSeparated (← (segment.map Value.int).mapM Value.shown)) :
    Except Misuse Value)).mapError _ = _
  cases (segment.map Value.int).mapM Value.shown <;> rfl

/-- The comma behind an array is left out after the last one. -/
theorem eval_comma :
    Expr.eval sc (roundFrame segment index length)
      (.choose (.not (.member (.name "loop") "last")) (.const (.text ","))
        (some (.const (.text ""))) 6) =
        .ok (.text (if index + 1 = length then "" else ",")) := by
  have hlast : Expr.eval sc (roundFrame segment index length) (.not (.member (.name "loop") "last")) =
      .ok (.bool !(decide (index + 1 = length))) := rfl
  rw [Expr.eval, hlast]
  by_cases h : index + 1 = length <;> simp [h, Expr.eval, evalOption]

/-- A round of the loop prints the line of its segment, if all of its items can be written out. -/
theorem runAll_segmentBody (h : ∀ n ∈ segment, Value.IsLegible n) :
    runAll sc (roundFrame segment index length) (segmentBody l) =
      .ok (printedSegment l (decide (index + 1 = length)) segment,
        roundFrame segment index length) := by
  have hsegment := eval_segment sc segment index length
  rw [mapM_shown_int h] at hsegment
  simp only [segmentBody, runAll, Statement.run, hsegment, eval_comma, Except.map, mapError_ok, ok_bind, pure_eq_ok,
    Value.shown_text, lift_ok, printedSegment, String.append_empty, String.append_assoc, decide_eq_true_eq]

/-- An integer that is too long ends the round. -/
theorem runAll_segmentBody_error (h : ∃ n ∈ segment, ¬Value.IsLegible n) :
    runAll sc (roundFrame segment index length) (segmentBody l) = .error (.misuse .longInteger) := by
  have hsegment := eval_segment sc segment index length
  rw [mapM_shown_int_error h] at hsegment
  simp only [segmentBody, runAll, Statement.run, hsegment, Except.map, mapError_error, ok_bind, error_bind]

variable {sc l segment index length}

/-- A round is a run of the repeated statements. -/
theorem loopRound_segment :
    loopRound sc {} (.name "segment") (segmentBody l) length index (.list (segment.map .int)) =
      (runAll sc (roundFrame segment index length) (segmentBody l)).map (·.1) := by
  rw [loopRound, Binder.bind, ok_bind]
  show (runAll sc (roundFrame segment index length) (segmentBody l) >>= _) = _
  cases runAll sc (roundFrame segment index length) (segmentBody l) <;> rfl

theorem loopRound_of_legible (h : ∀ n ∈ segment, Value.IsLegible n) :
    loopRound sc {} (.name "segment") (segmentBody l) length index (.list (segment.map .int)) =
      .ok (printedSegment l (decide (index + 1 = length)) segment) := by
  rw [loopRound_segment, runAll_segmentBody _ _ _ _ _ h]
  rfl

theorem loopRound_of_not_legible (h : ∃ n ∈ segment, ¬Value.IsLegible n) :
    loopRound sc {} (.name "segment") (segmentBody l) length index (.list (segment.map .int)) =
      .error (.misuse .longInteger) := by
  rw [loopRound_segment, runAll_segmentBody_error _ _ _ _ _ h]
  rfl

theorem failsAs_loopRound (segment : List Int) :
    FailsAs (· = .misuse .longInteger)
      (loopRound sc {} (.name "segment") (segmentBody l) length index (.list (segment.map .int))) := by
  by_cases h : ∀ n ∈ segment, Value.IsLegible n
  · rw [loopRound_of_legible h]
    exact .ok _
  · rw [loopRound_of_not_legible (by simpa using h)]
    exact .error rfl

theorem eval_segments (s : Surroundings) (segments : List (List Int)) (template : Option String) :
    Expr.eval ⟨s, [("segments", segmentsValue segments)], template⟩ {} (.name "segments") =
      .ok (.list (segments.map fun segment => .list (segment.map .int))) := rfl

/-- The template prints the table. -/
theorem render_serializedAtnTree (s : Surroundings) (l : Layout) {segments : List (List Int)}
    (h : ∀ segment ∈ segments, ∀ n ∈ segment, Value.IsLegible n) (template : Option String) :
    Program.render ⟨serializedAtnTree l⟩ ⟨s, [("segments", segmentsValue segments)], template⟩ =
      .ok (printedTable l segments) :=
  render_loop_between (eval_segments s segments template)
    (fun _ segment hsegment => loopRound_of_legible (h segment hsegment)) (printedHead l) (printedTail l)

/-- A table with an integer that is too long cannot be printed. -/
theorem render_serializedAtnTree_error (s : Surroundings) (l : Layout) {segments : List (List Int)}
    (h : ∃ segment ∈ segments, ∃ n ∈ segment, ¬Value.IsLegible n) (template : Option String) :
    Program.render ⟨serializedAtnTree l⟩ ⟨s, [("segments", segmentsValue segments)], template⟩ =
      .error (.misuse .longInteger) := by
  obtain ⟨segment, hsegment, hlong⟩ := h
  exact render_loop_between_error (eval_segments s segments template) (fun _ segment _ => failsAs_loopRound segment)
    ⟨segment, hsegment, fun _ => loopRound_of_not_legible hlong⟩ (printedHead l) (printedTail l)

/-! ## Reading it back -/

theorem lexemes?_behindTag (l : Layout) (s : String) (rest : List Char) :
    lexemes? .nothing ((behindTag l s).toList ++ rest) = lexemes? .nothing (s.toList ++ rest) := by
  rw [toList_behindTag]
  split
  · rfl
  · exact lexemes?_blank rfl _

theorem lexemes?_printedSegment (l : Layout) (last : Bool) (segment : List Int) (rest : List Char) :
    lexemes? .nothing ((printedSegment l last segment).toList ++ rest) =
      (lexemes? .nothing rest).map fun more =>
        .opening :: (itemLexemes segment ++ .closing :: if last then more else .comma :: more) := by
  have hopening : ("            [" : String).toList = List.replicate 12 ' ' ++ ['['] :=
    String.toList_ofList
  have hblanks : ∀ c ∈ List.replicate 12 ' ', Text.isBlank c = true := isBlank_of_mem_replicate 12
  have hclosing : ("]" : String).toList = [']'] := String.toList_ofList
  have hend : ("\n" : String).toList = ['\n'] := String.toList_ofList
  simp only [printedSegment, String.toList_append, List.append_assoc]
  rw [lexemes?_behindTag, hopening, List.append_assoc, lexemes?_blanks hblanks, hclosing, hend]
  show lexemes? .nothing ('[' :: ((", ".intercalate (segment.map toString)).toList ++
    ']' :: ((if last then "" else ",").toList ++ '\n' :: rest))) = _
  rw [lexemes?_mark .nothing (x := .opening) rfl, lexemes?_items]
  cases last with
  | true =>
    have hnone : ("" : String).toList = [] := String.toList_ofList
    rw [if_pos rfl, hnone, List.nil_append, lexemes?_blank rfl]
    cases lexemes? .nothing rest <;> rfl
  | false =>
    have hcomma : ("," : String).toList = [','] := String.toList_ofList
    rw [if_neg Bool.false_ne_true, hcomma, List.singleton_append,
      lexemes?_mark .nothing (x := .comma) rfl, lexemes?_blank rfl]
    cases lexemes? .nothing rest <;> rfl

theorem lexemes?_printedSegments (l : Layout) {length : Nat} (segments : List (List Int))
    (index : Nat) (hlength : index + segments.length = length) (rest : List Char) :
    lexemes? .nothing ((printedSegments l length index segments).toList ++ rest) =
      (lexemes? .nothing rest).map (arrayLexemes segments ++ ·) := by
  induction segments generalizing index with
  | nil =>
    have hnone : ("" : String).toList = [] := String.toList_ofList
    show lexemes? .nothing (("" : String).toList ++ rest) = _
    rw [hnone, List.nil_append]
    cases lexemes? .nothing rest <;> rfl
  | cons segment more ih =>
    rw [List.length_cons] at hlength
    have hmore := ih (index + 1) (by omega)
    rw [printedSegments, pieces, String.toList_append, List.append_assoc, lexemes?_printedSegment,
      ← printedSegments, hmore, Option.map_map]
    congr 1
    funext found
    -- a comma stands behind this array exactly if there are more
    cases more with
    | nil =>
      rw [List.length_nil] at hlength
      simp [arrayLexemes, hlength]
    | cons next others =>
      rw [List.length_cons] at hlength
      have hlast : ¬ index + 1 = length := by omega
      simp [arrayLexemes, hlast]

/-- The head ends with the only call that merges arrays. -/
theorem behind?_printedHead (l : Layout) (rest : List Char) :
    behind? "\\array_merge(".toList ((printedHead l).toList ++ rest) = some ('\n' :: rest) := by
  rw [printedHead, toList_behindTag, String.toList_ofList, String.toList_ofList]
  split <;> rfl

theorem toList_printedTail (l : Layout) :
    ∃ blanks rest, (∀ c ∈ blanks, Text.isBlank c = true) ∧
      (printedTail l).toList = blanks ++ ')' :: rest := by
  have htail : ("        );\n    \x7d" : String).toList =
      List.replicate 8 ' ' ++ ')' :: ";\n    \x7d".toList := by
    rw [String.toList_ofList, String.toList_ofList]
    rfl
  obtain ⟨ending, hlast⟩ := toList_lastLine l "        );\n    \x7d"
  rw [htail, List.append_assoc, List.cons_append] at hlast
  obtain ⟨blanks, hblanks, hprinted⟩ := toList_behindTag_blanks l hlast
  exact ⟨blanks, _, hblanks, hprinted⟩

/-- The segments are read back from the printed table. -/
theorem mergedArrays?_printedTable (l : Layout) (segments : List (List Int)) :
    mergedArrays? (printedTable l segments) = some segments := by
  obtain ⟨blanks, rest, hblanks, htail⟩ := toList_printedTail l
  let printed := (printedSegments l segments.length 0 segments).toList
  have hlexemes : lexemes? .nothing ('\n' :: (printed ++ blanks)) = some (arrayLexemes segments) := by
    have hnothing : lexemes? .nothing blanks = some [] := by
      have := lexemes?_blanks hblanks []
      rwa [List.append_nil] at this
    rw [lexemes?_blank rfl, lexemes?_printedSegments l segments 0 (Nat.zero_add _), hnothing]
    simp
  have hinside : insideParens? 0 ('\n' :: (printed ++ blanks) ++ ')' :: rest) =
      some ('\n' :: (printed ++ blanks)) :=
    insideParens?_of_notMem (parens_notMem_of_lexemes? hlexemes) rest
  have hsplit : (printedTable l segments).toList =
      (printedHead l).toList ++ (printed ++ (blanks ++ ')' :: rest)) := by
    rw [printedTable, String.toList_append, String.toList_append, htail, List.append_assoc]
  -- head, printed segments and tail: the reader passes the first and stops at the last
  rw [mergedArrays?, hsplit, behind?_printedHead]
  rw [List.cons_append, List.append_assoc] at hinside
  show (do
    let inside ← insideParens? 0 ('\n' :: (printed ++ (blanks ++ ')' :: rest)))
    arrays? (← lexemes? .nothing inside)) = _
  rw [hinside]
  show (do arrays? (← lexemes? .nothing ('\n' :: (printed ++ blanks)))) = _
  rw [hlexemes]
  exact arrays?_arrayLexemes segments

/-! ## What the layout changes -/

/-- A text without its white space. -/
def squeezed (s : String) : List Char := s.toList.filter fun c => !Text.isBlank c

theorem squeezed_append (s t : String) : squeezed (s ++ t) = squeezed s ++ squeezed t := by
  rw [squeezed, String.toList_append, List.filter_append]
  rfl

theorem squeezed_behindTag (l : Layout) (s : String) : squeezed (behindTag l s) = squeezed s := by
  rw [squeezed, toList_behindTag]
  split <;> rfl

theorem squeezed_lastLine (l : Layout) (s : String) : squeezed (lastLine l s) = squeezed s := by
  have hnewline : squeezed "\n" = [] := by decide
  rw [lastLine]
  split
  · rw [squeezed_append, hnewline, List.append_nil]
  · rfl

theorem squeezed_printedSegments (l l' : Layout) (length index : Nat) (segments : List (List Int)) :
    squeezed (printedSegments l length index segments) =
      squeezed (printedSegments l' length index segments) := by
  induction segments generalizing index with
  | nil => rfl
  | cons segment rest ih =>
    have hrest := ih (index + 1)
    rw [printedSegments] at hrest ⊢
    rw [printedSegments] at hrest ⊢
    rw [pieces, pieces, squeezed_append, squeezed_append, hrest]
    simp only [printedSegment, squeezed_append, squeezed_behindTag]

/-- All layouts print the same but for white space. -/
theorem squeezed_printedTable (l l' : Layout) (segments : List (List Int)) :
    squeezed (printedTable l segments) = squeezed (printedTable l' segments) := by
  simp only [printedTable, printedHead, printedTail, squeezed_append, squeezed_behindTag,
    squeezed_lastLine, squeezed_printedSegments l l']

/-! ## From the table to its segments and back -/

section

variable (o : GroupOptions) (l : Layout) (rs : List Group.Registration) {segments : List (List Int)}

/-- The shipped group renders the template by its program, whatever is registered with it. -/
theorem render_serializedAtn_eq (segments : List (List Int)) :
    ((phpGroup o l).after rs).render "SerializedATN" [("segments", segmentsValue segments)] =
      Program.render ⟨serializedAtnTree l⟩
        ⟨((phpGroup o l).after rs).surroundings, [("segments", segmentsValue segments)], some "SerializedATN.j2"⟩ := by
  have hname : Group.fullName "SerializedATN" = "SerializedATN.j2" := by decide +kernel
  exact render_php hname rfl o rs rfl

/-- The shipped group prints the table. -/
theorem render_serializedAtn (h : ∀ segment ∈ segments, ∀ n ∈ segment, Value.IsLegible n) :
    ((phpGroup o l).after rs).render "SerializedATN" [("segments", segmentsValue segments)] =
      .ok (printedTable l segments) := by
  rw [render_serializedAtn_eq, render_serializedAtnTree _ l h]

theorem render_serializedAtn_error (h : ∃ segment ∈ segments, ∃ n ∈ segment, ¬Value.IsLegible n) :
    ((phpGroup o l).after rs).render "SerializedATN" [("segments", segmentsValue segments)] =
      .error (.misuse .longInteger) := by
  rw [render_serializedAtn_eq, render_serializedAtnTree_error _ l h]

end

/-- A table is cut into segments that together are the table. Under all options the shipped template prints them if
every integer can be written out, and then reading the rendered table gives the segments back in order; all options
print the same but for white space. With an integer that is too long to be written out, rendering fails. -/
theorem mergedArrays?_render (table : List Int) (size : Int) (hsize : 1 ≤ size) :
    ∃ segments, split table size = .ok segments ∧ segments.flatten = table ∧
      ∃ visible, ∀ (o : GroupOptions) (l : Layout), o.layout = .ok l →
        ∃ g : Group, Group.ofDirectory files "Php" (Group.shippedDir "Php") o = .ok g ∧
          ∀ rs : List Group.Registration,
            ((∀ n ∈ table, Value.IsLegible n) → ∃ text,
              (g.after rs).render "SerializedATN" [("segments", segmentsValue segments)] = .ok text ∧
                mergedArrays? text = some segments ∧ squeezed text = visible) ∧
            ((∃ n ∈ table, ¬Value.IsLegible n) →
              (g.after rs).render "SerializedATN" [("segments", segmentsValue segments)] =
                .error (.misuse .longInteger)) := by
  have htable : (chunks size.toNat table).flatten = table := flatten_chunks (by omega) table
  refine ⟨chunks size.toNat table, ?_, htable, squeezed (printedTable .plain (chunks size.toNat table)), ?_⟩
  · rw [split, if_neg (by omega)]
  · intro o l ho
    refine ⟨phpGroup o l, ofDirectory_php o l ho, fun rs => ⟨fun hlegible => ?_, fun hlong => ?_⟩⟩
    · have hsegments : ∀ segment ∈ chunks size.toNat table, ∀ n ∈ segment, Value.IsLegible n :=
        fun segment hsegment n hn => hlegible n (htable ▸ List.mem_flatten_of_mem hsegment hn)
      exact ⟨_, render_serializedAtn o l rs hsegments, mergedArrays?_printedTable l _,
        squeezed_printedTable l .plain _⟩
    · obtain ⟨n, hn, hlong⟩ := hlong
      rw [← htable] at hn
      obtain ⟨segment, hsegment, hn⟩ := List.mem_flatten.mp hn
      exact render_serializedAtn_error o l rs ⟨segment, hsegment, n, hn, hlong⟩

theorem mergedArrays?_render_three :
    (1 : Int) ≤ 2 ∧ ({} : GroupOptions).layout = .ok ⟨true, true, true⟩ ∧ (∀ n ∈ [3, -1, 40], Value.IsLegible n) ∧
      ∃ (g : Group) (text : String), Group.ofDirectory files "Php" (Group.shippedDir "Php") {} = .ok g ∧
        g.render "SerializedATN" [("segments", segmentsValue [[3, -1], [40]])] = .ok text ∧
        mergedArrays? text = some [[3, -1], [40]] := by
  obtain ⟨segments, hsegments, -, visible, hrender⟩ := mergedArrays?_render [3, -1, 40] 2 (by decide)
  have hsplit : split [3, -1, 40] 2 = .ok [[3, -1], [40]] := by
    rw [split, if_neg (by decide)]
    simp [chunks]
  obtain rfl : [[3, -1], [40]] = segments := Except.ok.inj (hsplit.symm.trans hsegments)
  have hlegible : ∀ n ∈ [3, -1, 40], Value.IsLegible n := by decide +kernel
  obtain ⟨g, hg, hread⟩ := hrender {} ⟨true, true, true⟩ rfl
  obtain ⟨text, htext, harrays, -⟩ := (hread []).1 hlegible
  exact ⟨by decide, rfl, hlegible, g, text, hg, htext, harrays⟩

/-- An integer of one digit too many is no table that can be rendered. -/
theorem render_serializedAtn_long :
    let long : Int := Nat.pow 10 Value.digitLimit
    split [long] 1 = .ok [[long]] ∧
      ∃ g : Group, Group.ofDirectory files "Php" (Group.shippedDir "Php") {} = .ok g ∧
        g.render "SerializedATN" [("segments", segmentsValue [[long]])] = .error (.misuse .longInteger) := by
  intro long
  refine ⟨by simp [split, chunks], _, ofDirectory_php {} ⟨true, true, true⟩ rfl, ?_⟩
  have hlong : ¬Value.IsLegible long := by decide +kernel
  exact render_serializedAtn_error {} ⟨true, true, true⟩ []
    ⟨_, List.mem_singleton_self _, _, List.mem_singleton_self _, hlong⟩

end Emission.Segment
