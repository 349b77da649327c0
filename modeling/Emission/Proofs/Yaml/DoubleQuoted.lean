import Emission.Proofs.Escape.Reading
import Emission.Proofs.Yaml.Quoted

/-!
# Double quotes

Every text is read back from what stands between double quotes, wherever its lines are broken and whatever follows.
Main statement: `readsQuoted_doubleForm`.
-/

namespace Emission.Yaml

open Json (InDocument)

variable {c : Char} {cs s t rest : List Char} {fold : Bool} {indent column : Nat}

/-! ## Escapes -/

theorem escapeMeaning?_of_mark {m : Char} (h : escapeMark? c = some m) : escapeMeaning? m = some c := by
  unfold escapeMark? at h
  split at h <;> cases h <;> rfl

theorem readEscape?_of_digits {mark : Char} {width : Nat} (hmeaning : escapeMeaning? mark = none)
    (hwidth : escapeWidth? mark = some width) (hc : c.toNat < Nat.pow 16 width) (rest : List Char) :
    readEscape? (mark :: Text.hexFixed .upper width c.toNat ++ rest) = some ([c], rest) := by
  have hfield : (if ((Text.hexFixed .upper width c.toNat ++ rest).take width).length = width then
      Text.readHex? ((Text.hexFixed .upper width c.toNat ++ rest).take width) else none) = some c.toNat :=
    Escape.hexField?_hexFixed .upper hc rest
  have hmax : ¬c.toNat > 0x10FFFF := Nat.not_lt.mpr (Escape.toNat_le_maxCodePoint c)
  have hunit : ¬(0xD800 ≤ c.toNat ∧ c.toNat ≤ 0xDFFF) := by
    have hvalid : c.toNat < 0xD800 ∨ (0xDFFF < c.toNat ∧ c.toNat < 0x110000) := c.valid
    omega
  simp only [List.cons_append, readEscape?, hmeaning, hwidth, hfield, if_neg hmax, if_neg hunit,
    Char.ofNat_toNat, Escape.drop_hexFixed]

/-- An escape is read as the character it was written for. -/
theorem exists_escapeForm (c : Char) :
    ∃ body, escapeForm c = '\\' :: body ∧ ∀ rest, readEscape? (body ++ rest) = some ([c], rest) := by
  unfold escapeForm
  cases hmark : escapeMark? c with
  | some m =>
    refine ⟨[m], rfl, fun rest => ?_⟩
    simp only [List.cons_append, List.nil_append, readEscape?, escapeMeaning?_of_mark hmark]
  | none =>
    dsimp only
    split
    · next h => exact ⟨_, rfl, readEscape?_of_digits rfl rfl h⟩
    split
    · next h => exact ⟨_, rfl, readEscape?_of_digits rfl rfl h⟩
    · have hmax := Escape.toNat_le_maxCodePoint c
      exact ⟨_, rfl, readEscape?_of_digits rfl rfl (Nat.lt_of_le_of_lt hmax (by decide))⟩

/-- A broken line: nothing is meant by the break and the indentation behind it. -/
theorem readEscape?_newLine (hindent : 0 < indent) (h : StartsSolid cs) :
    readEscape? (newLine indent ++ cs) = some ([], cs) :=
  (readsBreaks_blanks hindent h).read

theorem isSolid_of_unescaped (h : isUnescaped c = true) (hne : c ≠ ' ') : IsSolid c := by
  simp only [isUnescaped, Bool.and_eq_true, decide_eq_true_eq] at h
  exact isSolid_of_printable h.1.1 hne

/-- A text that starts with no blank is written as one that starts with no white space. -/
theorem startsSolid_doubleChars {atStart escaped : Bool} (h : s.head? ≠ some ' ') :
    StartsSolid (doubleChars fold indent atStart escaped column s ++ '"' :: rest) := by
  match s with
  | [] => exact ⟨_, _, rfl, by decide⟩
  | c :: s =>
    have hslash (cs : List Char) : StartsSolid ('\\' :: cs) := ⟨_, _, rfl, by decide⟩
    obtain ⟨body, hform, -⟩ := exists_escapeForm c
    rw [doubleChars, hform]
    dsimp only
    split
    · next hc =>
      split
      · split <;> exact hslash _
      · exact ⟨_, _, rfl, isSolid_of_unescaped hc fun heq => h (congrArg some heq)⟩
    · split
      · split <;> exact hslash _
      · exact hslash _

/-- Between double quotes no line ends but behind a backslash. -/
theorem continues_doubleChars {atStart escaped : Bool} :
    Continues (doubleChars fold indent atStart escaped column s ++ '"' :: rest) := by
  induction s generalizing atStart escaped column with
  | nil => exact (startsSolid_doubleChars (by decide)).continues
  | cons c s ih =>
    by_cases hc : c = ' '
    · subst hc
      rw [doubleChars, if_pos (by decide), if_pos rfl]
      split
      · exact StartsSolid.continues ⟨_, _, rfl, by decide⟩
      · exact ih.blank
    · exact (startsSolid_doubleChars (s := c :: s) fun heq => hc (Option.some.inj heq)).continues

/-- A line that is broken behind a backslash goes on behind the indentation. -/
theorem ReadsQuoted.newLine (hindent : 0 < indent) (hcs : StartsSolid cs) (h : ReadsQuoted '"' cs t rest) :
    ReadsQuoted '"' ('\\' :: newLine indent ++ cs) t rest := by
  refine .escape (readEscape?_newLine hindent hcs) ?_ h
  rw [List.length_append]
  exact Nat.le_add_left _ _

theorem ReadsQuoted.slashBlank (h : ReadsQuoted '"' cs t rest) :
    ReadsQuoted '"' ('\\' :: ' ' :: cs) (' ' :: t) rest :=
  have hescape : readEscape? (' ' :: cs) = some ([' '], cs) := rfl
  .escape hescape (Nat.le_succ _) h

theorem ReadsQuoted.unescaped (hc : isUnescaped c = true) (hne : c ≠ ' ') (h : ReadsQuoted '"' cs t rest) :
    ReadsQuoted '"' (c :: cs) (c :: t) rest := by
  have hsolid := isSolid_of_unescaped hc hne
  simp only [isUnescaped, Bool.and_eq_true, bne_iff_ne] at hc
  exact .char hc.1.2 (fun _ => hc.2) hsolid h

theorem ReadsQuoted.escapeForm (c : Char) (h : ReadsQuoted '"' cs t rest) :
    ReadsQuoted '"' (escapeForm c ++ cs) (c :: t) rest := by
  obtain ⟨body, hform, hescape⟩ := exists_escapeForm c
  rw [hform]
  refine .escape (hescape cs) ?_ h
  rw [List.length_append]
  exact Nat.le_add_left _ _

/-- A text is read back from what stands between double quotes, from any column on, also if the blank that it starts
with is escaped at the start of a line. -/
theorem readsQuoted_doubleChars (hindent : 0 < indent) (hwidth : indent < bestWidth) (s : List Char) :
    (∀ atStart escaped column,
      ReadsQuoted '"' (doubleChars fold indent atStart escaped column s ++ '"' :: rest) s rest) ∧
    (s.head? = some ' ' → ReadsQuoted '"'
      ('\\' :: doubleChars fold indent false true (indent + 1) s ++ '"' :: rest) s rest) := by
  induction s with
  | nil =>
    have hquote : '"' ≠ '\'' := by decide
    exact ⟨fun _ _ _ => .close fun heq => absurd heq hquote, fun hhead => by cases hhead⟩
  | cons c s ih =>
    obtain ⟨hchars, hslash⟩ := ih
    refine ⟨fun atStart escaped column => ?_, fun hhead => ?_⟩
    · rw [doubleChars]
      dsimp only
      split
      · next hc =>
        split
        · by_cases hspace : c = ' '
          · subst hspace
            rw [if_pos rfl, List.append_assoc]
            exact .newLine hindent ⟨_, _, rfl, by decide⟩ (.slashBlank (hchars _ _ _))
          · rw [if_neg hspace, List.append_assoc]
            exact .newLine hindent ⟨_, _, rfl, isSolid_of_unescaped hc hspace⟩ (.unescaped hc hspace (hchars _ _ _))
        · by_cases hspace : c = ' '
          · subst hspace
            exact .blank (by decide) continues_doubleChars (hchars _ _ _)
          · exact .unescaped hc hspace (hchars _ _ _)
      · split
        · split
          · next hhead =>
            simp only [List.append_assoc, List.cons_append]
            exact .escapeForm c (.newLine hindent ⟨_, _, rfl, by decide⟩ (hslash hhead))
          · next hhead =>
            simp only [List.append_assoc, List.cons_append]
            exact .escapeForm c (.newLine hindent (startsSolid_doubleChars hhead) (hchars _ _ _))
        · rw [List.append_assoc]
          exact .escapeForm c (hchars _ _ _)
    · obtain rfl : c = ' ' := Option.some.inj hhead
      -- the line is shorter than the best width, so it is not broken again
      have hshort : decide (bestWidth < indent + 1) = false := decide_eq_false (Nat.not_lt.mpr hwidth)
      rw [doubleChars, if_pos (by decide)]
      simp only [hshort, Bool.and_false, Bool.false_eq_true, if_false]
      exact .slashBlank (hchars _ _ _)

/-- Every text is read back from what stands between double quotes. -/
theorem readsQuoted_doubleForm (hindent : 0 < indent) (hwidth : indent < bestWidth) (fold : Bool) (column : Nat)
    (s rest : List Char) :
    ∃ cs, doubleForm fold indent column s ++ rest = '"' :: cs ∧ ReadsQuoted '"' cs s rest := by
  refine ⟨doubleChars fold indent true false (column + 1) s ++ '"' :: rest, ?_, ?_⟩
  · simp only [doubleForm, List.cons_append, List.append_assoc, List.nil_append]
  · exact (readsQuoted_doubleChars hindent hwidth s).1 true false (column + 1)

/-! ## Characters that are written -/

theorem inDocument_escapeForm (c : Char) : ∀ d ∈ escapeForm c, InDocument d := by
  have hdigits (width : Nat) : ∀ d ∈ Text.hexFixed .upper width c.toNat, InDocument d :=
    fun d hd => .inl (Json.printable_hexFixed .upper width c.toNat d hd)
  unfold escapeForm
  split
  · next m hmark =>
    have hm : InDocument m := by
      unfold escapeMark? at hmark
      split at hmark <;> cases hmark <;> decide
    exact List.forall_mem_cons.mpr ⟨by decide, List.forall_mem_singleton.mpr hm⟩
  · dsimp only
    split
    · exact List.forall_mem_cons.mpr ⟨by decide, List.forall_mem_cons.mpr ⟨by decide, hdigits 2⟩⟩
    split
    · exact List.forall_mem_cons.mpr ⟨by decide, List.forall_mem_cons.mpr ⟨by decide, hdigits 4⟩⟩
    · exact List.forall_mem_cons.mpr ⟨by decide, List.forall_mem_cons.mpr ⟨by decide, hdigits 8⟩⟩

theorem inDocument_doubleChars {atStart escaped : Bool} :
    ∀ c ∈ doubleChars fold indent atStart escaped column s, InDocument c := by
  induction s generalizing atStart escaped column with
  | nil => exact List.forall_mem_nil _
  | cons c s ih =>
    have hslash : InDocument '\\' := by decide
    have hform := inDocument_escapeForm c
    have hline := inDocument_newLine indent
    rw [doubleChars]
    dsimp only
    split
    · next hc =>
      have hself : InDocument c := by
        simp only [isUnescaped, Bool.and_eq_true, decide_eq_true_eq] at hc
        exact .inl hc.1.1
      split
      · split <;> simp only [List.cons_append, List.forall_mem_cons, List.forall_mem_append]
        · exact ⟨hslash, hline, hslash, hself, ih⟩
        · exact ⟨hslash, hline, hself, ih⟩
      · exact List.forall_mem_cons.mpr ⟨hself, ih⟩
    · split
      · split <;> simp only [List.append_assoc, List.forall_mem_append, List.forall_mem_cons, List.cons_append]
        · exact ⟨hform, hslash, hline, hslash, ih⟩
        · exact ⟨hform, hslash, hline, ih⟩
      · exact List.forall_mem_append.mpr ⟨hform, ih⟩

theorem inDocument_doubleForm : ∀ c ∈ doubleForm fold indent column s, InDocument c :=
  List.forall_mem_cons.mpr ⟨by decide, List.forall_mem_append.mpr
    ⟨inDocument_doubleChars, List.forall_mem_singleton.mpr (by decide)⟩⟩

end Emission.Yaml
