import Emission.Proofs.Yaml.Quoted

/-!
# Single quotes

A text that may stand between single quotes is read back, wherever its lines are broken and whatever follows. Main
statement: `readsQuoted_singleForm`.
-/

namespace Emission.Yaml

open Json (InDocument)

variable {c : Char} {s rest : List Char} {fold : Bool} {indent column : Nat}

/-! ## Texts between single quotes -/

theorem hasPair_cons (p q : Char → Bool) (c : Char) (s : List Char) :
    hasPair p q (c :: s) = (s.head?.any (fun d => p c && q d) || hasPair p q s) := by
  cases s <;> rfl

/-- What may stand between single quotes may be cut behind its first character, which is no special one and does
not stand with the next one for white space at the end or the start of a line. -/
theorem of_isSingleText_cons (h : isSingleText (c :: s) = true) :
    isSpecial c = false ∧ isSingleText s = true ∧
      (c = '\n' → s.head? ≠ some ' ') ∧ (c = ' ' → s.head? ≠ some '\n') := by
  simp only [isSingleText, List.any_cons, hasPair_cons, Bool.not_or, Bool.and_eq_true,
    Bool.not_eq_true'] at h ⊢
  obtain ⟨⟨⟨hc, hs⟩, hbreak, hbreaks⟩, hblank, hblanks⟩ := h
  refine ⟨hc, ⟨⟨hs, hbreaks⟩, hblanks⟩, ?_, ?_⟩
  · rintro rfl hhead
    rw [hhead] at hbreak
    cases hbreak
  · rintro rfl hhead
    rw [hhead] at hblank
    cases hblank

/-- What is written behind a line feed between single quotes. -/
def behindFeed (fold : Bool) (indent : Nat) (s : List Char) : List Char :=
  if s.head? = some '\n' then '\n' :: singleChars fold indent (some '\n') 0 s
  else newLine indent ++ singleChars fold indent (some '\n') indent s

/-- The first line feed in a row is written twice. -/
theorem singleChars_feed {before : Option Char} (h : before ≠ some '\n') :
    singleChars fold indent before column ('\n' :: s) = '\n' :: behindFeed fold indent s := by
  rw [singleChars, if_neg (by decide), if_pos rfl, if_neg h]
  rfl

theorem behindFeed_feed :
    behindFeed fold indent ('\n' :: s) = '\n' :: behindFeed fold indent s := by
  have hhead : ('\n' :: s).head? = some '\n' := rfl
  rw [behindFeed, if_pos hhead, singleChars, if_neg (by decide), if_pos rfl, if_pos rfl]
  rfl

/-- A character that is neither a blank nor a line feed. -/
theorem startsSolid_singleChars {before : Option Char} (hs : isSingleText s = true)
    (hblank : s.head? ≠ some ' ') (hfeed : s.head? ≠ some '\n') :
    StartsSolid (singleChars fold indent before column s ++ '\'' :: rest) := by
  match s, hs with
  | [], _ => exact ⟨_, _, rfl, by decide⟩
  | c :: s, hs =>
    have hblank : c ≠ ' ' := fun heq => hblank (congrArg some heq)
    have hfeed : c ≠ '\n' := fun heq => hfeed (congrArg some heq)
    have hc := printable_of_not_special (of_isSingleText_cons hs).1 hfeed
    by_cases hquote : c = '\''
    · rw [singleChars, if_pos hquote]
      exact ⟨_, _, rfl, by decide⟩
    · rw [singleChars, if_neg hquote, if_neg hfeed, if_neg fun heq => hblank heq.1]
      exact ⟨_, _, rfl, isSolid_of_printable hc hblank⟩

/-- Behind a blank that stands for itself the line goes on. -/
theorem continues_singleChars (hs : isSingleText s = true) (hfeed : s.head? ≠ some '\n') :
    Continues (singleChars fold indent (some ' ') column s ++ '\'' :: rest) := by
  induction s generalizing column with
  | nil => exact (startsSolid_singleChars hs (by decide) hfeed).continues
  | cons c s ih =>
    by_cases hc : c = ' '
    · subst hc
      obtain ⟨-, hs', -, hfeed'⟩ := of_isSingleText_cons hs
      rw [singleChars, if_neg (by decide), if_neg (by decide), if_neg fun heq => heq.2.2.2.1 rfl]
      exact (ih hs' (hfeed' rfl)).blank
    · exact (startsSolid_singleChars hs (fun heq => hc (Option.some.inj heq)) hfeed).continues

/-- A text that may stand between single quotes is read back, from any column on. Behind a line feed of the text
the row of line feeds it belongs to is read with it, up to the text behind them. -/
theorem readsQuoted_singleChars (hindent : 0 < indent) (hrest : first rest ≠ '\'')
    (hs : isSingleText s = true) :
    (∀ before column, (before = some '\n' → s.head? ≠ some '\n') →
      ReadsQuoted '\'' (singleChars fold indent before column s ++ '\'' :: rest) s rest) ∧
    (s.head? ≠ some ' ' → ∃ bs t after, s = bs ++ t ∧
      ReadsBreaks (behindFeed fold indent s ++ '\'' :: rest) ('\n' :: bs) after ∧
      ReadsQuoted '\'' after t rest) := by
  induction s with
  | nil =>
    have hread (before : Option Char) (column : Nat) :
        ReadsQuoted '\'' (singleChars fold indent before column [] ++ '\'' :: rest) [] rest :=
      .close fun _ => hrest
    have hsolid : StartsSolid ('\'' :: rest) := ⟨_, _, rfl, by decide⟩
    refine ⟨fun before column _ => hread before column, fun _ => ⟨[], [], _, rfl, ?_, hread none 0⟩⟩
    rw [behindFeed, if_neg (by decide), List.append_assoc]
    exact (readsBreaks_blanks hindent hsolid).more
  | cons c s ih =>
    -- what is written of the rest does not depend on this character, so both parts follow from both parts of it
    obtain ⟨hspecial, hs', hfeed, hblank⟩ := of_isSingleText_cons hs
    obtain ⟨hchars, hfeeds⟩ := ih hs'
    have hread : ∀ before column, (before = some '\n' → (c :: s).head? ≠ some '\n') →
        ReadsQuoted '\'' (singleChars fold indent before column (c :: s) ++ '\'' :: rest) (c :: s) rest := by
      intro before column hbefore
      by_cases hquote : c = '\''
      · subst hquote
        rw [singleChars, if_pos rfl]
        exact .twice (hchars _ _ fun heq => by cases heq)
      by_cases hnew : c = '\n'
      · subst hnew
        obtain ⟨bs, t, after, rfl, hbreaks, hread⟩ := hfeeds (hfeed rfl)
        rw [singleChars_feed fun heq => hbefore heq rfl]
        exact .breaks (by decide) hbreaks hread
      have hafter : some c = some '\n' → s.head? ≠ some '\n' := fun heq => absurd (Option.some.inj heq) hnew
      rw [singleChars, if_neg hquote, if_neg hnew]
      split
      · -- a blank becomes a new line
        next hfold =>
        obtain ⟨rfl, -, -, -, -, hhead, -⟩ := hfold
        have hsolid : StartsSolid (singleChars fold indent (some ' ') indent s ++ '\'' :: rest) :=
          startsSolid_singleChars hs' hhead (hblank rfl)
        rw [List.append_assoc]
        exact .breaks (by decide) (readsBreaks_blanks hindent hsolid) (hchars _ _ hafter)
      · by_cases hspace : c = ' '
        · subst hspace
          exact .blank (by decide) (continues_singleChars hs' (hblank rfl)) (hchars _ _ hafter)
        · have hsolid := isSolid_of_printable (printable_of_not_special hspecial hnew) hspace
          exact .char hquote (fun heq => by cases heq) hsolid (hchars _ _ hafter)
    refine ⟨hread, fun hhead => ?_⟩
    by_cases hnew : c = '\n'
    · subst hnew
      obtain ⟨bs, t, after, rfl, hbreaks, hread⟩ := hfeeds (hfeed rfl)
      rw [behindFeed_feed]
      exact ⟨'\n' :: bs, t, after, rfl, hbreaks.more, hread⟩
    · have hne : (c :: s).head? ≠ some '\n' := fun heq => hnew (Option.some.inj heq)
      have hsolid : StartsSolid (singleChars fold indent (some '\n') indent (c :: s) ++ '\'' :: rest) :=
        startsSolid_singleChars hs hhead hne
      rw [behindFeed, if_neg hne, List.append_assoc]
      exact ⟨[], c :: s, _, rfl, (readsBreaks_blanks hindent hsolid).more, hread _ _ fun _ => hne⟩

/-- A text that may stand between single quotes is read back. -/
theorem readsQuoted_singleForm (hindent : 0 < indent) (hrest : first rest ≠ '\'')
    (hs : isSingleText s = true) :
    ∃ cs, singleForm fold indent column s ++ rest = '\'' :: cs ∧ ReadsQuoted '\'' cs s rest := by
  refine ⟨singleChars fold indent none (column + 1) s ++ '\'' :: rest, ?_, ?_⟩
  · simp only [singleForm, List.cons_append, List.append_assoc, List.nil_append]
  · exact (readsQuoted_singleChars hindent hrest hs).1 none (column + 1) fun heq => by cases heq

/-! ## Characters that are written -/

theorem inDocument_singleChars {before : Option Char} (hs : isSingleText s = true) :
    ∀ c ∈ singleChars fold indent before column s, InDocument c := by
  induction s generalizing before column with
  | nil => exact List.forall_mem_nil _
  | cons c s ih =>
    obtain ⟨hspecial, hs', -, -⟩ := of_isSingleText_cons hs
    have hfeed : InDocument '\n' := by decide
    have hquote : InDocument '\'' := by decide
    rw [singleChars]
    split
    · exact List.forall_mem_cons.mpr ⟨hquote, List.forall_mem_cons.mpr ⟨hquote, ih hs'⟩⟩
    split
    · refine List.forall_mem_append.mpr ⟨?_, ?_⟩
      · split
        · exact List.forall_mem_nil _
        · exact List.forall_mem_singleton.mpr hfeed
      · split
        · exact List.forall_mem_cons.mpr ⟨hfeed, ih hs'⟩
        · exact List.forall_mem_append.mpr ⟨inDocument_newLine indent, ih hs'⟩
    split
    · exact List.forall_mem_append.mpr ⟨inDocument_newLine indent, ih hs'⟩
    · next hne _ => exact List.forall_mem_cons.mpr ⟨.inl (printable_of_not_special hspecial hne), ih hs'⟩

theorem inDocument_singleForm (hs : isSingleText s = true) :
    ∀ c ∈ singleForm fold indent column s, InDocument c :=
  List.forall_mem_cons.mpr ⟨by decide, List.forall_mem_append.mpr
    ⟨inDocument_singleChars hs, List.forall_mem_singleton.mpr (by decide)⟩⟩

end Emission.Yaml
