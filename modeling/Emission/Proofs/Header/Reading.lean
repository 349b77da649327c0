import Emission.Proofs.Segment.Reading
import Mathlib.Data.List.Infix

/-!
# Reading the head of a file

What a reader of generated code makes of its head: a comment goes from the first place where one is opened to the
first place behind it where one is closed, and the line of a namespace may follow. Main statement:
`comment?_eq_some_iff`, what was meant to be the inside of a comment is read as that exactly if nothing in it closes
the comment. A text that is put together at a space or a line feed closes a comment only if one of its parts does
(`infix_append_cons_iff`).
-/

namespace Emission.Header

/-! ## Comments -/

/-- A text closes a comment that it stands in. -/
def Closes (cs : List Char) : Prop := ['*', '/'] <:+: cs

instance (cs : List Char) : Decidable (Closes cs) := inferInstanceAs (Decidable (_ <:+: _))

/-- What stands before the first end of a comment, and what follows it. -/
def insideComment? : List Char → Option (List Char × List Char)
  | [] => none
  | c :: rest =>
    match Text.dropPrefix? ['*', '/'] (c :: rest) with
    | some after => some ([], after)
    | none => (insideComment? rest).map fun found => (c :: found.1, found.2)

/-- The inside of the first comment of a text, and what follows the comment. -/
def comment? (s : String) : Option (String × String) :=
  ((Segment.behind? "/*".toList s.toList).bind insideComment?).map fun found =>
    (.ofList found.1, .ofList found.2)

theorem closes_cons_iff {c : Char} {cs : List Char} :
    Closes (c :: cs) ↔ (c = '*' ∧ ['/'] <+: cs) ∨ Closes cs := by
  rw [Closes, List.infix_cons_iff, List.cons_prefix_cons, eq_comm (a := '*')]
  rfl

/-- What does not close a comment is the inside of one that is closed right behind it. -/
theorem insideComment?_append {inside : List Char} (h : ¬ Closes inside) (after : List Char) :
    insideComment? (inside ++ '*' :: '/' :: after) = some (inside, after) := by
  induction inside with
  | nil => rfl
  | cons c inside ih =>
    have hrest : ¬ Closes inside := fun hcloses => h (closes_cons_iff.mpr (.inr hcloses))
    -- an asterisk at the end of the inside stands before another one, not before a slash
    have hnone : Text.dropPrefix? ['*', '/'] (c :: (inside ++ '*' :: '/' :: after)) = none := by
      refine Option.eq_none_iff_forall_ne_some.mpr fun rest hfound => h (closes_cons_iff.mpr (.inl ?_))
      obtain ⟨hc, hnext⟩ := List.cons.inj (Text.dropPrefix?_eq_some.mp hfound)
      cases inside with
      | nil => cases hnext
      | cons d inside =>
        obtain ⟨rfl, -⟩ := List.cons.inj hnext
        exact ⟨hc, inside, rfl⟩
    rw [List.cons_append, insideComment?, hnone, ih hrest]
    rfl

theorem parts_of_insideComment? {cs inside after : List Char}
    (h : insideComment? cs = some (inside, after)) :
    cs = inside ++ '*' :: '/' :: after ∧ ¬ Closes inside := by
  induction cs generalizing inside with
  | nil => cases h
  | cons c rest ih =>
    rw [insideComment?] at h
    split at h
    · next rest' hend =>
      obtain ⟨rfl, rfl⟩ := Prod.mk.inj (Option.some.inj h)
      have hparts : c :: rest = ['*', '/'] ++ rest' := Text.dropPrefix?_eq_some.mp hend
      exact ⟨hparts, by decide⟩
    · next hopen =>
      obtain ⟨⟨more, after'⟩, hfound, heq⟩ := Option.map_eq_some_iff.mp h
      obtain ⟨hinside, hafter⟩ := Prod.mk.inj heq
      dsimp only at hinside hafter
      subst hinside hafter
      obtain ⟨rfl, hmore⟩ := ih hfound
      refine ⟨rfl, fun hcloses => ?_⟩
      rcases closes_cons_iff.mp hcloses with ⟨rfl, next, rfl⟩ | hcloses
      · cases hopen
      · exact hmore hcloses

/-- What was meant to be the inside of the first comment of a text is read as that exactly if it does not close the
comment. -/
theorem comment?_eq_some_iff {s inside after : String}
    (h : Segment.behind? "/*".toList s.toList = some (inside.toList ++ '*' :: '/' :: after.toList)) :
    comment? s = some (inside, after) ↔ ¬ Closes inside.toList := by
  rw [comment?, h, Option.bind_some]
  constructor
  · intro hread
    obtain ⟨⟨before, rest⟩, hfound, heq⟩ := Option.map_eq_some_iff.mp hread
    obtain ⟨rfl, -⟩ := Prod.mk.inj heq
    rw [String.toList_ofList]
    exact (parts_of_insideComment? hfound).2
  · intro hopen
    rw [insideComment?_append hopen, Option.map_some, String.ofList_toList, String.ofList_toList]

/-! ## Texts that are put together -/

theorem prefix_of_prefix_append_cons {part rest : List Char} {c : Char} (h : c ∉ part) (front : List Char)
    (hpart : part <+: front ++ c :: rest) : part <+: front := by
  rcases List.prefix_or_prefix_of_prefix hpart (List.prefix_append front (c :: rest)) with hfront | ⟨more, rfl⟩
  · exact hfront
  · cases more with
    | nil => exact (List.append_nil front).symm ▸ List.prefix_rfl
    | cons d more =>
      obtain ⟨rfl, -⟩ := List.cons_prefix_cons.mp ((List.prefix_append_right_inj front).mp hpart)
      exact absurd (List.mem_append_right front List.mem_cons_self) h

/-- A text that is put together at a character of another kind has a part in it only if one of its two sides has. -/
theorem infix_append_cons_iff {part front rest : List Char} {c : Char} (h : c ∉ part) :
    part <:+: front ++ c :: rest ↔ part <:+: front ∨ part <:+: rest := by
  constructor
  · intro hpart
    induction front with
    | nil =>
      rcases List.infix_cons_iff.mp hpart with hprefix | hrest
      · exact .inl (prefix_of_prefix_append_cons h [] hprefix).isInfix
      · exact .inr hrest
    | cons d front ih =>
      rcases List.infix_cons_iff.mp hpart with hprefix | hrest
      · exact .inl (prefix_of_prefix_append_cons h (d :: front) hprefix).isInfix
      · exact (ih hrest).imp_left List.infix_cons
  · rintro (hfront | hrest)
    · exact hfront.trans (List.prefix_append front _).isInfix
    · exact hrest.trans ((List.suffix_cons c rest).trans (List.suffix_append front _)).isInfix

/-! ## Namespaces -/

/-- What follows the keyword of a namespace, if a text begins with one behind white space. -/
def spaceLine? (s : String) : Option String :=
  (Text.dropPrefix? "namespace ".toList (s.toList.dropWhile Text.isBlank)).map .ofList

end Emission.Header
