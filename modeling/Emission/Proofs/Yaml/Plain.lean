import Emission.Proofs.Yaml.SingleQuoted

/-!
# Plain scalars read back

A text that is written without quotes is read back up to the line that follows it, if that line is indented less than
the text. Main statement: `readsPlain_plainChars`. As between quotes, blanks are read in one step up to their end.
-/

namespace Emission.Yaml

open Json (Printable InDocument)

variable {c : Char} {cs s t next tail rest : List Char} {fold : Bool} {before : Option Char}
  {least indent column outdent : Nat} {crossed : Bool}

/-! ## Reading -/

/-- A plain scalar whose further lines are indented by `least` blanks is read as a text, up to what follows it and,
if there is one, the line break behind it. -/
def ReadsPlain (least : Nat) (cs t rest : List Char) (crossed : Bool) : Prop :=
  ∀ fuel, cs.length ≤ fuel → readPlain false least fuel cs = ⟨t, rest, crossed⟩

/-- Behind white space a scalar goes on with this text. -/
def Resumes (cs : List Char) : Prop := plainEnds false cs = false ∧ first cs ≠ '#'

/-- A text starts with something else than white space, a comment or a mark of byte order. -/
structure StartsToken (cs : List Char) : Prop where
  blank : first cs ≠ ' '
  comment : first cs ≠ '#'
  lineBreak : isBreak (first cs) = false
  orderMark : first cs ≠ '\uFEFF'

/-- A line starts with something that is no separator of documents either, or the text has ended. -/
structure StartsLine (cs : List Char) : Prop extends StartsToken cs where
  separator : atSeparator cs = false

theorem Resumes.isBreak_first (h : Resumes cs) : isBreak (first cs) = false := by
  match cs, h with
  | c :: cs, ⟨hends, _⟩ =>
    simp only [plainEnds, isGap, isBreakOrEnd, Bool.or_eq_false_iff] at hends
    exact hends.1.1.2.1

theorem Resumes.ne_blank (h : Resumes cs) : first cs ≠ ' ' := by
  match cs, h with
  | c :: cs, ⟨hends, _⟩ =>
    rintro hblank
    obtain rfl : c = ' ' := hblank
    cases hends

/-- A line without text is passed over up to its first character. -/
theorem plainBreaks_blanks (hblank : first rest ≠ ' ') (hbreak : isBreak (first rest) = false) {fuel : Nat}
    (n column : Nat) (hfuel : n < fuel) :
    plainBreaks column fuel (List.replicate n ' ' ++ rest) = (some [], rest, column + n) := by
  induction n generalizing column fuel with
  | zero =>
    match fuel, hfuel with
    | fuel + 1, _ =>
      rw [List.replicate_zero, List.nil_append, plainBreaks, if_neg hblank, hbreak]
      rfl
  | succ n ih =>
    match fuel, hfuel with
    | fuel + 1, hfuel =>
      have hfirst : first (List.replicate (n + 1) ' ' ++ rest) = ' ' := rfl
      have hdrop : (List.replicate (n + 1) ' ' ++ rest).drop 1 = List.replicate n ' ' ++ rest := rfl
      rw [plainBreaks, if_pos hfirst, hdrop, ih (column + 1) (Nat.lt_of_succ_lt_succ hfuel), Nat.add_assoc,
        Nat.add_comm 1 n]

/-- A single line break with the indentation of the next line. -/
theorem plainSpace_newLine (indent : Nat) (hblank : first rest ≠ ' ') (hbreak : isBreak (first rest) = false)
    (hseparator : indent = 0 → atSeparator rest = false) :
    plainSpace (newLine indent ++ rest) = ⟨[' '], rest, some indent⟩ := by
  have hdrop : (newLine indent ++ rest).dropWhile (· == ' ') = newLine indent ++ rest := rfl
  have hfirst : isBreak (first (newLine indent ++ rest)) = true := rfl
  have htake : takeBreak (newLine indent ++ rest) = (['\n'], List.replicate indent ' ' ++ rest) := rfl
  have hnone : atSeparator (List.replicate indent ' ' ++ rest) = false := by
    match indent, hseparator with
    | 0, h => exact h rfl
    | n + 1, _ => rfl
  have hfuel : indent < (List.replicate indent ' ' ++ rest).length + 1 := by
    rw [List.length_append, List.length_replicate]
    omega
  have hbreaks := plainBreaks_blanks hblank hbreak indent 0 hfuel
  simp only [plainSpace, hdrop, hfirst, htake, hnone, hbreaks, if_true, Bool.false_eq_true, if_false,
    Nat.zero_add]
  rfl

theorem plainSpace_blanks (h : Resumes (cs.dropWhile (· == ' '))) :
    plainSpace cs = ⟨cs.takeWhile (· == ' '), cs.dropWhile (· == ' '), none⟩ := by
  simp only [plainSpace, h.isBreak_first, Bool.false_eq_true, if_false]

/-- No text is read before white space. -/
theorem plainRun_gap (hc : isGap c = true) : plainRun false (c :: cs) = ([], c :: cs) := by
  rw [plainRun, if_pos]
  simp [plainEnds, hc]

/-- A character before which the scalar does not end is read before what follows it. -/
theorem readPlain_char (hc : plainEnds false (c :: cs) = false) (fuel : Nat) :
    readPlain false least (fuel + 1) (c :: cs) =
      { readPlain false least (fuel + 1) cs with text := c :: (readPlain false least (fuel + 1) cs).text } := by
  have hrun : plainRun false (c :: cs) = (c :: (plainRun false cs).1, (plainRun false cs).2) := by
    rw [plainRun, if_neg (by simp [hc])]
  simp only [readPlain, hrun]
  split <;> rfl

/-- Blanks inside a line are read with the text behind them. -/
theorem readPlain_blanks (h : Resumes (cs.dropWhile (· == ' '))) (fuel : Nat) :
    let more := readPlain false least fuel (cs.dropWhile (· == ' '))
    readPlain false least (fuel + 1) (' ' :: cs) =
      ⟨' ' :: cs.takeWhile (· == ' ') ++ more.text, more.rest, more.crossed⟩ := by
  have hdrop : (' ' :: cs).dropWhile (· == ' ') = cs.dropWhile (· == ' ') := rfl
  have htake : (' ' :: cs).takeWhile (· == ' ') = ' ' :: cs.takeWhile (· == ' ') := rfl
  have hspace : plainSpace (' ' :: cs) = ⟨' ' :: cs.takeWhile (· == ' '), cs.dropWhile (· == ' '), none⟩ := by
    rw [plainSpace_blanks (hdrop ▸ h), htake, hdrop]
  have hrun : plainRun false (' ' :: cs) = ([], ' ' :: cs) := plainRun_gap rfl
  have hcomment : (first (cs.dropWhile (· == ' ')) == '#') = false := beq_eq_false_iff_ne.mpr h.2
  simp only [readPlain, hrun, hspace, hcomment, h.1]
  rfl

namespace ReadsPlain

theorem char (hc : plainEnds false (c :: cs) = false) (h : ReadsPlain least cs t rest crossed) :
    ReadsPlain least (c :: cs) (c :: t) rest crossed := by
  intro fuel hfuel
  match fuel, hfuel with
  | fuel + 1, hfuel => rw [readPlain_char hc, h (fuel + 1) (Nat.le_of_succ_le hfuel)]

theorem blank (hcs : Resumes (cs.dropWhile (· == ' '))) (h : ReadsPlain least cs t rest crossed) :
    ReadsPlain least (' ' :: cs) (' ' :: t) rest crossed := by
  intro fuel hfuel
  match fuel, hfuel with
  | fuel + 1, hfuel =>
    have hlength : cs.length ≤ fuel := Nat.le_of_succ_le_succ hfuel
    have hread := h (fuel + 1) (Nat.le_succ_of_le hlength)
    rw [readPlain_blanks hcs]
    by_cases hblank : first cs = ' '
    · -- the blank is read together with those behind it
      obtain ⟨cs, rfl⟩ : ∃ tail, cs = ' ' :: tail := by
        cases cs with
        | nil => cases hblank
        | cons c cs => exact ⟨cs, congrArg (· :: cs) hblank⟩
      have hcs' : Resumes (cs.dropWhile (· == ' ')) := hcs
      rw [readPlain_blanks hcs'] at hread
      obtain ⟨rfl, hrest, hcrossed⟩ := PlainRead.mk.inj hread
      rw [← hrest, ← hcrossed]
      rfl
    · have hself : cs.dropWhile (· == ' ') = cs := by
        cases cs with
        | nil => rfl
        | cons c cs => exact List.dropWhile_cons_of_neg fun h => hblank (beq_iff_eq.mp h)
      have hnone : cs.takeWhile (· == ' ') = [] := by
        cases cs with
        | nil => rfl
        | cons c cs => exact List.takeWhile_cons_of_neg fun h => hblank (beq_iff_eq.mp h)
      rw [hself, hnone, h fuel hlength]
      rfl

/-- A new line that is indented far enough stands for a blank. -/
theorem folded (hindent : 0 < indent) (hleast : least ≤ indent) (hcs : Resumes cs)
    (h : ReadsPlain least cs t rest crossed) :
    ReadsPlain least (newLine indent ++ cs) (' ' :: t) rest crossed := by
  have hspace := plainSpace_newLine indent hcs.ne_blank hcs.isBreak_first fun hzero =>
    absurd hzero (Nat.ne_of_gt hindent)
  have hrun : plainRun false (newLine indent ++ cs) = ([], newLine indent ++ cs) := plainRun_gap rfl
  have hcomment : (first cs == '#') = false := beq_eq_false_iff_ne.mpr hcs.2
  have houtdented : decide (indent < least) = false := decide_eq_false (Nat.not_lt.mpr hleast)
  intro fuel hfuel
  match fuel, hfuel with
  | fuel + 1, hfuel =>
    have hread : readPlain false least fuel cs = ⟨t, rest, crossed⟩ := by
      refine h fuel ?_
      rw [newLine, List.length_append, List.length_cons] at hfuel
      omega
    simp only [readPlain, hrun, hspace, hcomment, hcs.1, Option.any_some, houtdented, hread]
    rfl

/-- A line that is indented less ends the scalar. -/
theorem close (houtdent : outdent < least) (hrest : StartsLine rest) :
    ReadsPlain least (newLine outdent ++ rest) [] rest true := by
  have hspace := plainSpace_newLine outdent hrest.blank hrest.lineBreak fun _ => hrest.separator
  have hrun : plainRun false (newLine outdent ++ rest) = ([], newLine outdent ++ rest) :=
    plainRun_gap rfl
  intro fuel hfuel
  match fuel, hfuel with
  | fuel + 1, hfuel =>
    simp only [readPlain, hrun, hspace, Option.any_some, houtdent, decide_true, Bool.not_false, Bool.and_self,
      Bool.or_true, Bool.true_or, if_true]
    rfl

/-- So does a colon before a gap. -/
theorem colon (hgap : isGap (first cs) = true) : ReadsPlain least (':' :: cs) [] (':' :: cs) false := by
  have hends : plainEnds false (':' :: cs) = true := by simp [plainEnds, hgap]
  have hrun : plainRun false (':' :: cs) = ([], ':' :: cs) := by rw [plainRun, if_pos hends]
  have hspace : plainSpace (':' :: cs) = ⟨[], ':' :: cs, none⟩ := rfl
  intro fuel hfuel
  cases fuel with
  | zero => exact absurd hfuel (Nat.not_succ_le_zero _)
  | succ fuel =>
    simp only [readPlain, hrun, hspace]
    rfl

end ReadsPlain

/-! ## Plain texts -/

/-- What may stand without quotes behind other characters of a text. -/
structure PlainTail (s : List Char) : Prop where
  printable : ∀ c ∈ s, Printable c
  keyMark : hasKeyMark s = false
  comment : hasPair isGap (· == '#') s = false
  last : s.getLast? ≠ some ' '

namespace PlainTail

theorem of_isPlainText (h : isPlainText s = true) : PlainTail s := by
  simp only [isPlainText, Bool.and_eq_true, Bool.not_eq_true', bne_iff_ne] at h
  obtain ⟨⟨⟨⟨⟨⟨⟨-, hspecial⟩, hbreak⟩, -⟩, hlast⟩, -⟩, hkey⟩, hcomment⟩ := h
  refine ⟨fun c hc => printable_of_not_special ?_ ?_, hkey, hcomment, hlast⟩
  · exact Bool.eq_false_iff.mpr (List.any_eq_false.mp hspecial c hc)
  · rintro rfl
    exact List.any_eq_false.mp hbreak '\n' hc rfl

theorem behind (h : PlainTail (c :: s)) : PlainTail s := by
  have hkey := h.keyMark
  have hcomment := h.comment
  rw [hasKeyMark, Bool.or_eq_false_iff] at hkey
  rw [hasPair_cons, Bool.or_eq_false_iff] at hcomment
  refine ⟨fun d hd => h.printable d (List.mem_cons_of_mem c hd), hkey.2, hcomment.2, fun hlast => h.last ?_⟩
  cases s with
  | nil => cases hlast
  | cons d s => exact hlast

/-- The scalar does not end before a character that is no blank. -/
theorem plainEnds_plainChars (h : PlainTail (c :: s)) (hc : c ≠ ' ') (tail : List Char) :
    plainEnds false (plainChars fold indent before column (c :: s) ++ tail) = false := by
  have hgap {d : Char} (hd : d ∈ c :: s) (hne : d ≠ ' ') : isGap d = false := by
    have hsolid := isSolid_of_printable (h.printable d hd) hne
    have hend : isEnd d = false := by
      refine beq_eq_false_iff_ne.mpr ?_
      rintro rfl
      exact absurd (h.printable _ hd) (by decide)
    rw [isGap, isBreakOrEnd, hsolid.1, hsolid.2, hend]
    rfl
  have hkey := h.keyMark
  rw [hasKeyMark, Bool.or_eq_false_iff] at hkey
  rw [plainChars, if_neg fun heq => hc heq.1, List.cons_append, plainEnds, hgap List.mem_cons_self hc]
  by_cases hcolon : c = ':'
  · -- what is behind the colon is no gap, so it is written next to it
    subst hcolon
    cases s with
    | nil => cases hkey.1
    | cons d s =>
      have hd : isGap d = false := hkey.1
      have hblank : d ≠ ' ' := by
        rintro rfl
        cases hd
      rw [plainChars, if_neg fun heq => hblank heq.1, List.cons_append]
      simp [first, hd]
  · simp [hcolon]

/-- Behind a blank a text goes on with a character that is none. -/
theorem resumes_plainChars (h : PlainTail (' ' :: c :: s)) (hc : c ≠ ' ') (tail : List Char) :
    Resumes (plainChars fold indent before column (c :: s) ++ tail) := by
  refine ⟨h.behind.plainEnds_plainChars hc tail, ?_⟩
  have hcomment := h.comment
  rw [hasPair_cons, Bool.or_eq_false_iff] at hcomment
  rw [plainChars, if_neg fun heq => hc heq.1]
  rintro hfirst
  obtain rfl : c = '#' := hfirst
  cases hcomment.1

/-- Behind several blanks as well. -/
theorem resumes_dropWhile (h : PlainTail (' ' :: s)) (tail : List Char) :
    Resumes ((plainChars fold indent (some ' ') column s ++ tail).dropWhile (· == ' ')) := by
  induction s generalizing column with
  | nil => exact absurd rfl h.last
  | cons c s ih =>
    by_cases hc : c = ' '
    · subst hc
      rw [plainChars, if_neg fun heq => heq.2.2.1 rfl]
      exact ih h.behind
    · have hresumes : Resumes (plainChars fold indent (some ' ') column (c :: s) ++ tail) :=
        h.resumes_plainChars hc tail
      rw [plainChars, if_neg fun heq => hc heq.1, List.cons_append] at hresumes ⊢
      have hself (cs : List Char) : (c :: cs).dropWhile (· == ' ') = c :: cs :=
        List.dropWhile_cons_of_neg fun heq => hc (beq_iff_eq.mp heq)
      rwa [hself]

end PlainTail

/-- A text that may stand without quotes is read back, from any column on, if the scalar ends behind it and its further
lines are indented far enough. -/
theorem readsPlain_plainChars (hfold : fold = true → 0 < indent ∧ least ≤ indent)
    (htail : ReadsPlain least tail [] rest crossed) (hs : PlainTail s) :
    ReadsPlain least (plainChars fold indent before column s ++ tail) s rest crossed := by
  induction s generalizing before column with
  | nil => exact htail
  | cons c s ih =>
    by_cases hc : c = ' '
    · subst hc
      rw [plainChars]
      split
      · next hbroken =>
        -- the blank becomes a new line
        obtain ⟨hindent, hleast⟩ := hfold hbroken.2.1
        rw [List.append_assoc]
        refine .folded hindent hleast ?_ (ih hs.behind)
        cases s with
        | nil => exact absurd rfl hs.last
        | cons d s => exact hs.resumes_plainChars (fun heq => hbroken.2.2.2.1 (congrArg some heq)) _
      · exact .blank (hs.resumes_dropWhile _) (ih hs.behind)
    · have hends : plainEnds false (plainChars fold indent before column (c :: s) ++ tail) = false :=
        hs.plainEnds_plainChars hc _
      rw [plainChars, if_neg fun heq => hc heq.1] at hends ⊢
      exact .char hends (ih hs.behind)

/-- Without folding a text is written as it is. -/
theorem plainChars_eq_self : plainChars false indent before column s = s := by
  induction s generalizing before column with
  | nil => rfl
  | cons c s ih => rw [plainChars, if_neg fun heq => Bool.false_ne_true heq.2.1, ih]

/-! ## How plain texts start -/

/-- A plain text starts with a printable character that is neither a blank nor a mark; no gap is behind a dash, a
question mark or a colon. -/
theorem exists_of_isPlainText (h : isPlainText s = true) :
    ∃ c s', s = c :: s' ∧ Printable c ∧ c ≠ ' ' ∧ isLeadingMark c = false ∧
      (c = '-' ∨ c = '?' ∨ c = ':' → isGap (first s') = false) := by
  have htail := PlainTail.of_isPlainText h
  simp only [isPlainText, Bool.and_eq_true, Bool.not_eq_true', bne_iff_ne, startsLikeMark,
    Bool.or_eq_false_iff] at h
  obtain ⟨⟨⟨⟨⟨⟨⟨hne, -⟩, -⟩, hblank⟩, -⟩, ⟨-, hmark⟩, hgap⟩, hkey⟩, -⟩ := h
  cases s with
  | nil => cases hne
  | cons c s =>
    refine ⟨c, s, rfl, htail.printable c List.mem_cons_self, hblank, hmark, fun hc => ?_⟩
    have hsecond : second (c :: s) = first s := rfl
    have hfirst : first (c :: s) = c := rfl
    rw [hsecond, hfirst] at hgap
    rw [hasKeyMark, Bool.or_eq_false_iff] at hkey
    rcases hc with rfl | rfl | rfl
    · exact hgap
    · exact hgap
    · exact hkey.1

theorem startsToken_cons (hprintable : Printable c) (hblank : c ≠ ' ') (hcomment : c ≠ '#') :
    StartsToken (c :: cs) := by
  refine ⟨hblank, hcomment, (isSolid_of_printable hprintable hblank).2, ?_⟩
  rintro hmark
  obtain rfl : c = '\uFEFF' := hmark
  exact absurd hprintable (by decide)

/-- What is written of a plain text starts as the text does. -/
theorem exists_plainForm (h : isPlainText s = true) (fold : Bool) (indent column : Nat) (tail : List Char) :
    ∃ c cs, plainForm fold indent column s ++ tail = c :: cs ∧ StartsToken (c :: cs) ∧ isGap c = false ∧
      isLeadingMark c = false ∧ (c = '-' ∨ c = '?' ∨ c = ':' → isGap (first cs) = false) := by
  obtain ⟨c, s, rfl, hprintable, hblank, hmark, hgap⟩ := exists_of_isPlainText h
  have hends : plainEnds false (plainForm fold indent column (c :: s) ++ tail) = false :=
    (PlainTail.of_isPlainText h).plainEnds_plainChars hblank tail
  have hcomment : c ≠ '#' := by
    rintro rfl
    cases hmark
  rw [plainForm, plainChars, if_neg fun heq => hblank heq.1, List.cons_append] at hends ⊢
  rw [plainEnds, Bool.or_eq_false_iff, Bool.or_eq_false_iff] at hends
  refine ⟨c, _, rfl, startsToken_cons hprintable hblank hcomment, hends.1.1, hmark, fun hc => ?_⟩
  specialize hgap hc
  cases s with
  | nil => cases hgap
  | cons d s =>
    have hd : d ≠ ' ' := by
      rintro rfl
      cases hgap
    rw [plainChars, if_neg fun heq => hd heq.1]
    exact hgap

/-- A plain text with a colon behind it is no separator of documents. -/
theorem atSeparator_colon (h : isPlainText s = true) : atSeparator (s ++ ':' :: cs) = false := by
  simp only [isPlainText, Bool.and_eq_true, Bool.not_eq_true', startsLikeMark, Bool.or_eq_false_iff,
    beq_eq_false_iff_ne] at h
  obtain ⟨⟨⟨-, ⟨⟨hdash, hdot⟩, -⟩, -⟩, -⟩, -⟩ := h
  have hfront : (s ++ ':' :: cs).take 3 ≠ ['-', '-', '-'] ∧ (s ++ ':' :: cs).take 3 ≠ ['.', '.', '.'] := by
    match s, hdash, hdot with
    | [], _, _ => simp
    | [a], _, _ => simp
    | [a, b], _, _ => simp
    | a :: b :: c :: s, hdash, hdot => exact ⟨hdash, hdot⟩
  rw [atSeparator, beq_eq_false_iff_ne.mpr hfront.1, beq_eq_false_iff_ne.mpr hfront.2]
  rfl

/-! ## Characters that are written -/

theorem inDocument_plainChars (hs : PlainTail s) :
    ∀ c ∈ plainChars fold indent before column s, InDocument c := by
  induction s generalizing before column with
  | nil => exact List.forall_mem_nil _
  | cons c s ih =>
    rw [plainChars]
    split
    · exact List.forall_mem_append.mpr ⟨inDocument_newLine indent, ih hs.behind⟩
    · exact List.forall_mem_cons.mpr ⟨.inl (hs.printable c List.mem_cons_self), ih hs.behind⟩

theorem inDocument_plainForm (hs : isPlainText s = true) :
    ∀ c ∈ plainForm fold indent column s, InDocument c :=
  inDocument_plainChars (.of_isPlainText hs)

end Emission.Yaml
