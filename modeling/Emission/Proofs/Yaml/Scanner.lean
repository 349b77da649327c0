import Emission.Proofs.Yaml.DoubleQuoted
import Emission.Proofs.Yaml.Plain
import Emission.Yaml.Token

/-!
# Scanning keys and scalars

The scanner outside brackets, from one token of a block to the next. A scanner is settled where the blanks before a
token are skipped and the blocks that have ended are closed; `Reaches` leads from one settled scanner to another.
Main statements: `reaches_colon`, over a key and its colon, and `exists_reaches_scalar`, over a scalar to the line
behind it.
-/

namespace Emission.Yaml

open Json (Printable InDocument)

variable {c : Char} {cs p rest : List Char} {i l col n : Nat}

/-! ## Moving on -/

namespace Cursor

theorem step_printable (hc : Printable c) :
    (⟨c :: cs, i, l, col⟩ : Cursor).step = ⟨cs, i + 1, l, col + 1⟩ := by
  have hbreak : isBreak c = false := by
    by_cases hblank : c = ' '
    · subst hblank
      rfl
    · exact (isSolid_of_printable hc hblank).2
  have hmark : c ≠ '\uFEFF' := by
    rintro rfl
    exact absurd hc (by decide)
  simp only [step, hbreak, Bool.false_and, Bool.false_eq_true, if_false, if_neg hmark]

theorem forward_add (m n : Nat) (c : Cursor) : forward (m + n) c = forward n (forward m c) := by
  induction m generalizing c with
  | zero =>
    rw [Nat.zero_add]
    rfl
  | succ m ih =>
    rw [Nat.succ_add, forward, ih]
    rfl

/-- Along a line the column grows with the place. -/
theorem forward_line (hp : ∀ c ∈ p, Printable c) :
    forward p.length ⟨p ++ rest, i, l, col⟩ = ⟨rest, i + p.length, l, col + p.length⟩ := by
  induction p generalizing i col with
  | nil => rfl
  | cons c p ih =>
    obtain ⟨hc, hp⟩ := List.forall_mem_cons.mp hp
    rw [List.length_cons, List.cons_append, forward, step_printable hc, ih hp, Nat.add_assoc, Nat.add_assoc,
      Nat.add_comm 1]

theorem exists_forward (hp : ∀ c ∈ p, InDocument c) :
    ∃ i' l' col', forward p.length ⟨p ++ rest, i, l, col⟩ = ⟨rest, i', l', col'⟩ := by
  induction p generalizing i l col with
  | nil => exact ⟨i, l, col, rfl⟩
  | cons c p ih =>
    obtain ⟨hc, htail⟩ := List.forall_mem_cons.mp hp
    rw [List.length_cons, List.cons_append, forward]
    rcases hc with hc | rfl
    · rw [step_printable hc]
      exact ih htail
    · exact ih htail

theorem moveTo_append : (⟨p ++ rest, i, l, col⟩ : Cursor).moveTo rest = forward p.length ⟨p ++ rest, i, l, col⟩ := by
  rw [moveTo, List.length_append, Nat.add_sub_cancel]

/-- Behind a new line the column is that of its indentation. -/
theorem exists_moveTo_newLine (hp : ∀ c ∈ p, InDocument c) :
    ∃ i' l', (⟨p ++ (newLine n ++ rest), i, l, col⟩ : Cursor).moveTo rest = ⟨rest, i', l', n⟩ := by
  have hlength : (p ++ newLine n).length = p.length + (1 + (List.replicate n ' ').length) := by
    rw [newLine, List.length_append, List.length_cons, Nat.add_comm 1]
  obtain ⟨i', l', col', hforward⟩ : ∃ i' l' col',
      forward p.length ⟨p ++ (newLine n ++ rest), i, l, col⟩ = ⟨newLine n ++ rest, i', l', col'⟩ := exists_forward hp
  refine ⟨i' + 1 + n, l' + 1, ?_⟩
  rw [← List.append_assoc, moveTo_append, hlength, List.append_assoc, forward_add, hforward, forward_add]
  have hstep : forward 1 ⟨newLine n ++ rest, i', l', col'⟩ = ⟨List.replicate n ' ' ++ rest, i' + 1, l' + 1, 0⟩ := rfl
  rw [hstep, forward_line (printable_blanks n), List.length_replicate, Nat.zero_add]

end Cursor

/-! ## Settled scanners -/

theorem takeBreak_of_not_break (h : isBreak (first cs) = false) : takeBreak cs = ([], cs) := by
  match cs, h with
  | [], _ => rfl
  | c :: cs, h =>
    have hc : isBreak c = false := h
    simp only [isBreak, Bool.or_eq_false_iff, beq_eq_false_iff_ne] at hc
    obtain ⟨⟨⟨⟨hfeed, hreturn⟩, hnext⟩, hline⟩, hparagraph⟩ := hc
    unfold takeBreak
    split
    · next heq => exact absurd (List.cons.inj heq).1 hreturn
    · next heq =>
      obtain ⟨rfl, rfl⟩ := List.cons.inj heq
      simp [hfeed, hreturn, hnext, hline, hparagraph]
    · next heq => cases heq

theorem dropWhile_spaces (h : first cs ≠ ' ') : (List.replicate n ' ' ++ cs).dropWhile (· == ' ') = cs := by
  rw [List.dropWhile_append_of_pos fun d hd => by rw [List.eq_of_mem_replicate hd]; rfl]
  cases cs with
  | nil => rfl
  | cons c cs => exact List.dropWhile_cons_of_neg fun heq => h (beq_iff_eq.mp heq)

namespace Scanner

variable {s s' s'' : Scanner} {indent : Int} {outer : List Int} {allowed : Bool} {ts : List Token}
  {cursor : Cursor} {column : Int}

/-- A scanner outside brackets that keeps no place of a key. -/
def inBlock (cursor : Cursor) (indent : Int) (outer : List Int) (allowed : Bool) (ts : List Token) : Scanner :=
  { cursor, indent, outer, keyAllowed := allowed, tokens := ts }

/-- A scanner behind a possible key. -/
def behindKey (cursor : Cursor) (indent : Int) (outer : List Int) (place : PossibleKey) (ts : List Token) : Scanner :=
  { cursor, indent, outer, keyAllowed := false, keys := [(0, place)], tokens := ts }

/-- The scanner before its next token: blanks are skipped, and blocks that have ended are closed. -/
def settled? (s : Scanner) : Option Scanner :=
  ((skipBlank (s.cursor.rest.length + 1) s.skipOrderMark).dropStaleKeys?).map fun s => s.unwind s.cursor.column

/-- The tokens that a settled scanner finds, with so many to come after the next one. -/
def look (fuel : Nat) (s : Scanner) : Option (List Token) :=
  if s.cursor.rest.isEmpty then (s.unwind (-1)).dropKey?.map (·.tokens)
  else
    match s.next? with
    | none => none
    | some s => run fuel s

theorem run_succ (fuel : Nat) (s : Scanner) : run (fuel + 1) s = s.settled?.bind (look fuel) := by
  rw [run, settled?]
  cases (skipBlank (s.cursor.rest.length + 1) s.skipOrderMark).dropStaleKeys? <;> rfl

/-- A settled scanner comes to another one within so many tokens. -/
def Reaches (n : Nat) (s s' : Scanner) : Prop := ∃ m ≤ n, ∀ fuel, look (fuel + m) s = look fuel s'

namespace Reaches

variable {m n : Nat}

theorem trans (h : Reaches m s s') (h' : Reaches n s' s'') : Reaches (m + n) s s'' := by
  obtain ⟨k, hk, hlook⟩ := h
  obtain ⟨k', hk', hlook'⟩ := h'
  refine ⟨k + k', Nat.add_le_add hk hk', fun fuel => ?_⟩
  rw [Nat.add_comm k, ← Nat.add_assoc, hlook, hlook']

theorem mono (h : Reaches m s s') (hle : m ≤ n) : Reaches n s s' := by
  obtain ⟨k, hk, hlook⟩ := h
  exact ⟨k, Nat.le_trans hk hle, hlook⟩

theorem of_next (hrest : s.cursor.rest ≠ []) (hnext : s.next? = some s') (hsettled : s'.settled? = some s'') :
    Reaches 1 s s'' := by
  refine ⟨1, Nat.le_refl 1, fun fuel => ?_⟩
  have hempty : s.cursor.rest.isEmpty = false := List.isEmpty_eq_false_iff.mpr hrest
  rw [look, hempty, hnext]
  show run (fuel + 1) s' = _
  rw [run_succ, hsettled]
  rfl

end Reaches

/-! ### Blocks that end -/

theorem unwind_of_le (h : s.indent ≤ column) : s.unwind column = s := by
  have hclosed : closed column s.indent s.outer = (0, s.indent, s.outer) := by
    cases s.outer with
    | nil => rfl
    | cons i outer => rw [closed, if_neg (Int.not_lt.mpr h)]
  rw [unwind, hclosed]
  split
  · rfl
  · simp

theorem unwind_inBlock (i : Int) (h : column < indent) :
    (inBlock cursor indent (i :: outer) allowed ts).unwind column =
      (inBlock cursor i outer allowed (ts ++ [.blockEnd])).unwind column := by
  simp only [unwind, inBlock, closed, if_pos h, List.replicate_succ, List.append_assoc, List.cons_append,
    List.nil_append]
  rfl

/-! ### Blanks -/

theorem skipBlank_blanks (h : StartsToken cs) (hs : s.cursor.rest = List.replicate n ' ' ++ cs) (fuel : Nat) :
    skipBlank (fuel + 1) s = { s with cursor := s.cursor.moveTo cs } := by
  simp only [skipBlank, hs, dropWhile_spaces h.blank, if_neg h.comment, takeBreak_of_not_break h.lineBreak]
  rfl

theorem skipOrderMark_eq (h : first s.cursor.rest ≠ '\uFEFF') : s.skipOrderMark = s :=
  if_neg fun heq => h heq.2

theorem settled?_blanks (h : StartsToken cs) :
    (inBlock ⟨List.replicate n ' ' ++ cs, i, l, col⟩ indent outer allowed ts).settled? =
      some ((inBlock ⟨cs, i + n, l, col + n⟩ indent outer allowed ts).unwind ↑(col + n)) := by
  have hmark : first (List.replicate n ' ' ++ cs) ≠ '\uFEFF' := by
    match n with
    | 0 => exact h.orderMark
    | n + 1 =>
      have hne : ' ' ≠ '\uFEFF' := by decide
      exact hne
  have hmove : (⟨List.replicate n ' ' ++ cs, i, l, col⟩ : Cursor).moveTo cs = ⟨cs, i + n, l, col + n⟩ := by
    rw [Cursor.moveTo_append, Cursor.forward_line (printable_blanks n), List.length_replicate]
  rw [settled?, skipOrderMark_eq hmark, skipBlank_blanks h rfl]
  simp only [inBlock, hmove]
  rfl

/-- Behind a new line a key may start. -/
theorem exists_settled?_newLine (h : StartsToken cs) :
    ∃ i' l', (inBlock ⟨newLine n ++ cs, i, l, col⟩ indent outer allowed ts).settled? =
      some ((inBlock ⟨cs, i', l', n⟩ indent outer true ts).unwind n) := by
  have hskip (fuel : Nat) : skipBlank (fuel + 1) (inBlock ⟨newLine n ++ cs, i, l, col⟩ indent outer allowed ts) =
      skipBlank fuel (inBlock ⟨List.replicate n ' ' ++ cs, i + 1, l + 1, 0⟩ indent outer true ts) := by
    have hdrop : (newLine n ++ cs).dropWhile (· == ' ') = newLine n ++ cs := rfl
    have hcomment : first (newLine n ++ cs) ≠ '#' := (by decide : '\n' ≠ '#')
    have htake : takeBreak (newLine n ++ cs) = (['\n'], List.replicate n ' ' ++ cs) := rfl
    have hmove : (⟨newLine n ++ cs, i, l, col⟩ : Cursor).moveTo (List.replicate n ' ' ++ cs) =
        ⟨List.replicate n ' ' ++ cs, i + 1, l + 1, 0⟩ := Cursor.moveTo_append (p := ['\n'])
    simp only [skipBlank, inBlock, hdrop, if_neg hcomment, htake, hmove]
    rfl
  have hsettled : (inBlock ⟨List.replicate n ' ' ++ cs, i + 1, l + 1, 0⟩ indent outer true ts).settled? =
      some ((inBlock ⟨cs, i + 1 + n, l + 1, 0 + n⟩ indent outer true ts).unwind ↑(0 + n)) := settled?_blanks h
  rw [Nat.zero_add] at hsettled
  have hmark : first (newLine n ++ cs) ≠ '\uFEFF' := (by decide : '\n' ≠ '\uFEFF')
  refine ⟨i + 1 + n, l + 1, ?_⟩
  rw [← hsettled, settled?, settled?, skipOrderMark_eq hmark, hskip, skipOrderMark,
    if_neg fun heq => Nat.succ_ne_zero i heq.1]
  rfl

/-! ### Keys -/

/-- A text without quotes is looked for where one starts. -/
theorem next?_of_startsPlain (hrest : s.cursor.rest = c :: cs) (hflow : s.flow = 0) (hgap : isGap c = false)
    (hmark : isLeadingMark c = false) (hsecond : c = '-' ∨ c = '?' ∨ c = ':' → isGap (first cs) = false)
    (hseparator : s.cursor.column = 0 → atSeparator (c :: cs) = false) : s.next? = s.plain? := by
  have hne {d : Char} (hd : isLeadingMark d = true) : c ≠ d := by
    rintro rfl
    rw [hmark] at hd
    cases hd
  have hpercent : ¬(s.cursor.column = 0 ∧ c = '%') := fun heq => hne (by decide) heq.2
  have hdocument : ¬(s.cursor.column = 0 ∧ atSeparator (c :: cs) = true) := by
    rintro ⟨hcolumn, htrue⟩
    rw [hseparator hcolumn] at htrue
    cases htrue
  have hfirst : first (c :: cs) = c := rfl
  have hnext : second (c :: cs) = first cs := rfl
  have hflow' : decide (s.flow > 0) = false := by
    rw [hflow]
    rfl
  have hstarts : startsPlain false (c :: cs) = true := by
    by_cases hc : c = '-' ∨ c = '?' ∨ c = ':'
    · rw [startsPlain, hfirst, hnext, hsecond hc]
      rcases hc with rfl | rfl | rfl <;> rfl
    · simp only [not_or] at hc
      simp [startsPlain, hfirst, hgap, hmark, hc]
  simp only [next?, hrest, hfirst, hnext, if_neg hpercent, if_neg hdocument, hflow']
  split
  iterate 10 exact absurd hmark (by decide)
  -- what is left is no mark, and it is no indicator either
  rw [if_neg, if_neg, if_neg, if_neg, if_neg, if_pos hstarts]
  · exact fun heq => hne (by decide) heq.1
  · exact fun heq => hne (by decide) heq.1
  · rintro ⟨rfl, hspaced⟩
    simp [hsecond (.inr (.inr rfl))] at hspaced
  · rintro ⟨rfl, hspaced⟩
    simp [hsecond (.inr (.inl rfl))] at hspaced
  · rintro ⟨rfl, hspaced⟩
    rw [hsecond (.inl rfl)] at hspaced
    cases hspaced

section Key

variable {k : List Char} {place : PossibleKey}

/-- The place of a key is kept. -/
theorem plain?_key (hk : isPlainText k = true) (hgap : isGap (first cs) = true) :
    (inBlock ⟨k ++ ':' :: cs, i, l, col⟩ indent outer true ts).plain? =
      some (behindKey ⟨':' :: cs, i + k.length, l, col + k.length⟩ indent outer
        ⟨ts.length, indent == col, i, l, col⟩ (ts ++ [.scalar (.ofList k) true])) := by
  have hread : readPlain false (indent + 1).toNat (k ++ ':' :: cs).length (k ++ ':' :: cs) =
      ⟨k, ':' :: cs, false⟩ := by
    have h : ReadsPlain (indent + 1).toNat (plainChars false 0 none 0 k ++ ':' :: cs) k (':' :: cs) false :=
      readsPlain_plainChars (fun heq => by cases heq) (.colon hgap) (.of_isPlainText hk)
    rw [plainChars_eq_self] at h
    exact h _ (Nat.le_refl _)
  have hmove : (⟨k ++ ':' :: cs, i, l, col⟩ : Cursor).moveTo (':' :: cs) =
      ⟨':' :: cs, i + k.length, l, col + k.length⟩ := by
    rw [Cursor.moveTo_append, Cursor.forward_line (PlainTail.of_isPlainText hk).printable]
  simp only [plain?, inBlock, keepKey?, dropKey?, List.lookup_nil, Option.map_some, if_true, gt_iff_lt, Nat.lt_irrefl,
    decide_false, hread, hmove]
  rfl

/-- A key that is on this line and not too long is not forgotten. -/
theorem settled?_behindKey (hline : place.line = l) (hindex : i - place.index ≤ 1024) (hindent : indent ≤ (col : Int)) :
    (behindKey ⟨':' :: cs, i, l, col⟩ indent outer place ts).settled? =
      some (behindKey ⟨':' :: cs, i, l, col⟩ indent outer place ts) := by
  have hstart : StartsToken (':' :: cs) := startsToken_cons (by decide) (by decide) (by decide)
  have hmove : (⟨':' :: cs, i, l, col⟩ : Cursor).moveTo (':' :: cs) = ⟨':' :: cs, i, l, col⟩ :=
    Cursor.moveTo_append (p := [])
  have hstale : (behindKey ⟨':' :: cs, i, l, col⟩ indent outer place ts).isStale place = false := by
    simp [isStale, behindKey, hline, hindex]
  have hdrop : (behindKey ⟨':' :: cs, i, l, col⟩ indent outer place ts).dropStaleKeys? =
      some (behindKey ⟨':' :: cs, i, l, col⟩ indent outer place ts) := by
    have hkeys : (behindKey ⟨':' :: cs, i, l, col⟩ indent outer place ts).keys = [(0, place)] := rfl
    simp only [dropStaleKeys?, hkeys, List.any_cons, List.any_nil, List.filter_cons, List.filter_nil, hstale]
    rfl
  rw [settled?, skipOrderMark_eq hstart.orderMark, skipBlank_blanks (n := 0) hstart rfl]
  simp only [behindKey, hmove] at hdrop ⊢
  rw [hdrop]
  exact congrArg some (unwind_of_le hindent)

/-- The colon behind a key. -/
theorem next?_colon (hgap : isGap (first cs) = true) (hplace : place.token = ts.length) (t : Token) :
    (behindKey ⟨':' :: cs, i, l, col⟩ indent outer place (ts ++ [t])).next? =
      some ((inBlock ⟨cs, i + 1, l, col + 1⟩ indent outer false (ts ++ [.key, t, .value])).openBlock place.column
        ts.length .mappingStart) := by
  have hpercent : ¬(col = 0 ∧ ':' = '%') := fun heq => absurd heq.2 (by decide)
  have hdocument : ¬(col = 0 ∧ atSeparator (':' :: cs) = true) := fun heq => by cases heq.2
  have hspaced : second (':' :: cs) = first cs := rfl
  have hfirst : first (':' :: cs) = ':' := rfl
  have htake (more : List Token) : (ts ++ more).take ts.length = ts := List.take_left
  have hdrop (more : List Token) : (ts ++ more).drop ts.length = more := List.drop_left
  have hstep : (⟨':' :: cs, i, l, col⟩ : Cursor).forward 1 = ⟨cs, i + 1, l, col + 1⟩ :=
    Cursor.step_printable (by decide)
  have hvalue : (behindKey ⟨':' :: cs, i, l, col⟩ indent outer place (ts ++ [t])).value? =
      some ((inBlock ⟨cs, i + 1, l, col + 1⟩ indent outer false (ts ++ [.key, t, .value])).openBlock place.column
        ts.length .mappingStart) := by
    have hlookup : List.lookup 0 [(0, place)] = some place := rfl
    by_cases hopen : indent < place.column
    all_goals
      simp only [value?, behindKey, inBlock, hlookup, hplace, htake, hdrop, openBlock, hopen, gt_iff_lt,
        Nat.lt_irrefl, if_true, if_false, allowKey, Scanner.forward, hstep, push, List.append_assoc,
        List.cons_append, List.nil_append]
      rfl
  simp only [next?, behindKey, hfirst, hspaced, if_neg hpercent, if_neg hdocument, hgap]
  exact hvalue

/-- Over a key and its colon, behind which the scanner settles. The block of the key is opened if it is not there. -/
theorem reaches_colon (hk : isPlainText k = true) (hlength : k.length ≤ 1024) (hgap : isGap (first cs) = true)
    (hindent : indent ≤ (col : Int))
    (hsettled : ((inBlock ⟨cs, i + k.length + 1, l, col + k.length + 1⟩ indent outer false
      (ts ++ [.key, .scalar (.ofList k) true, .value])).openBlock col ts.length .mappingStart).settled? = some s) :
    Reaches 2 (inBlock ⟨k ++ ':' :: cs, i, l, col⟩ indent outer true ts) s := by
  obtain ⟨c, cs', htext, -, hfirst, hmark, hsecond⟩ := exists_plainForm hk false 0 0 (':' :: cs)
  rw [plainForm, plainChars_eq_self] at htext
  have hnext : (inBlock ⟨k ++ ':' :: cs, i, l, col⟩ indent outer true ts).next? =
      (inBlock ⟨k ++ ':' :: cs, i, l, col⟩ indent outer true ts).plain? :=
    next?_of_startsPlain htext rfl hfirst hmark hsecond fun _ => htext ▸ atSeparator_colon hk
  rw [plain?_key hk hgap] at hnext
  have hne : k ++ ':' :: cs ≠ [] := by simp
  refine (Reaches.of_next hne hnext (settled?_behindKey rfl ?_ ?_)).trans
    (.of_next (List.cons_ne_nil _ _) (next?_colon hgap rfl _) hsettled)
  · rw [Nat.add_sub_cancel_left]
    exact hlength
  · exact Int.le_trans hindent (Int.ofNat_le.mpr (Nat.le_add_right _ _))

end Key

/-! ### Scalars -/

end Scanner

/-- The ways to write a text as the text of a scalar token. -/
inductive Spells (indent : Nat) : List Char → Token → Prop
  | plain {s : List Char} (fold : Bool) (column : Nat) (h : isPlainText s = true) :
    Spells indent (plainForm fold indent column s) (.scalar (.ofList s) true)
  | single {s : List Char} (fold : Bool) (column : Nat) (h : isSingleText s = true) :
    Spells indent (singleForm fold indent column s) (.scalar (.ofList s) false)
  | double (fold : Bool) (column : Nat) (s : List Char) :
    Spells indent (doubleForm fold indent column s) (.scalar (.ofList s) false)

namespace Spells

variable {indent : Nat} {form : List Char} {t : Token}

theorem startsToken (h : Spells indent form t) (tail : List Char) : StartsToken (form ++ tail) := by
  cases h with
  | plain fold column h =>
    obtain ⟨c, cs, htext, hstart, -⟩ := exists_plainForm h fold indent column tail
    rw [htext]
    exact hstart
  | single fold column h => exact startsToken_cons (by decide) (by decide) (by decide)
  | double fold column s => exact startsToken_cons (by decide) (by decide) (by decide)

theorem inDocument (h : Spells indent form t) : ∀ c ∈ form, InDocument c := by
  cases h with
  | plain fold column h => exact inDocument_plainForm h
  | single fold column h => exact inDocument_singleForm h
  | double fold column s => exact inDocument_doubleForm

theorem length_pos (h : Spells indent form t) : 0 < form.length := by
  cases h with
  | plain fold column h =>
    obtain ⟨c, s, rfl, -, hblank, -⟩ := exists_of_isPlainText h
    rw [plainForm, plainChars, if_neg fun heq => hblank heq.1]
    exact Nat.succ_pos _
  | single fold column h => exact Nat.succ_pos _
  | double fold column s => exact Nat.succ_pos _

end Spells

namespace Scanner

variable {form s : List Char} {t : Token} {outer : List Int} {ts : List Token} {indent outdent : Nat}

theorem next?_of_quote {s : Scanner} {quote : Char} (hquote : quote = '\'' ∨ quote = '"')
    (hrest : s.cursor.rest = quote :: cs) (hcolumn : s.cursor.column ≠ 0) : s.next? = s.quoted? quote := by
  have hpercent : ¬(s.cursor.column = 0 ∧ quote = '%') := fun heq => hcolumn heq.1
  have hdocument : ¬(s.cursor.column = 0 ∧ atSeparator (quote :: cs) = true) := fun heq => hcolumn heq.1
  have hfirst : first (quote :: cs) = quote := rfl
  simp only [next?, hrest, hfirst, if_neg hpercent, if_neg hdocument]
  rcases hquote with rfl | rfl <;> rfl

theorem exists_plain?_scalar (h : isPlainText s = true) (fold : Bool) (column : Nat) (hindent : n < indent)
    (houtdent : outdent ≤ n) (hrest : StartsLine rest) :
    ∃ i' l', (inBlock ⟨plainForm fold indent column s ++ (newLine outdent ++ rest), i, l, col⟩ n outer false
      ts).plain? = some (inBlock ⟨rest, i', l', outdent⟩ n outer true (ts ++ [.scalar (.ofList s) true])) := by
  have hread : ReadsPlain (n + 1) (plainForm fold indent column s ++ (newLine outdent ++ rest)) s rest true :=
    readsPlain_plainChars (fun _ => ⟨Nat.lt_of_le_of_lt (Nat.zero_le n) hindent, hindent⟩)
      (.close (Nat.lt_succ_of_le houtdent) hrest) (.of_isPlainText h)
  obtain ⟨i', l', hmove⟩ : ∃ i' l', (⟨plainForm fold indent column s ++ (newLine outdent ++ rest), i, l, col⟩ :
      Cursor).moveTo rest = ⟨rest, i', l', outdent⟩ := Cursor.exists_moveTo_newLine (inDocument_plainForm h)
  refine ⟨i', l', ?_⟩
  have hleast : ((n : Int) + 1).toNat = n + 1 := rfl
  simp only [plain?, inBlock, keepKey?, Bool.false_eq_true, if_false, Option.map_some, gt_iff_lt, Nat.lt_irrefl,
    decide_false, hleast, hread _ (Nat.le_refl _), hmove]
  rfl

theorem exists_quoted?_scalar {quote : Char} {after : List Char} (hform : ∀ c ∈ form, InDocument c)
    (htext : form ++ after = quote :: cs) (hread : ReadsQuoted quote cs s after) :
    ∃ i' l' col', (inBlock ⟨form ++ after, i, l, col⟩ n outer false ts).quoted? quote =
      some (inBlock ⟨after, i', l', col'⟩ n outer false (ts ++ [.scalar (.ofList s) false])) := by
  obtain ⟨i', l', col', hforward⟩ : ∃ i' l' col',
      Cursor.forward form.length ⟨form ++ after, i, l, col⟩ = ⟨after, i', l', col'⟩ := Cursor.exists_forward hform
  have hmove : (⟨form ++ after, i, l, col⟩ : Cursor).moveTo after = ⟨after, i', l', col'⟩ :=
    Cursor.moveTo_append.trans hforward
  have hdrop : (form ++ after).drop 1 = cs := by rw [htext, List.drop_one, List.tail_cons]
  have hlength : cs.length < (form ++ after).length := by
    rw [htext]
    exact Nat.lt_succ_self _
  refine ⟨i', l', col', ?_⟩
  simp only [quoted?, inBlock, keepKey?, Bool.false_eq_true, if_false, hdrop, hread _ hlength, hmove]
  rfl

/-- Over a scalar to the line behind it, which is indented no more than the block. -/
theorem exists_reaches_scalar (h : Spells indent form t) (hindent : n < indent) (hwidth : indent < bestWidth)
    (hcol : col ≠ 0) (houtdent : outdent ≤ n) (hrest : StartsLine rest) :
    ∃ i' l', Reaches 1 (inBlock ⟨form ++ (newLine outdent ++ rest), i, l, col⟩ n outer false ts)
      ((inBlock ⟨rest, i', l', outdent⟩ n outer true (ts ++ [t])).unwind outdent) := by
  have hpos : 0 < indent := Nat.lt_of_le_of_lt (Nat.zero_le n) hindent
  have hne : form ++ (newLine outdent ++ rest) ≠ [] := by simp [newLine]
  have hform := h.inDocument
  -- both quoted styles end at their quote, so what follows them is treated once
  have hquoted {quote : Char} {cs s : List Char} (hquote : quote = '\'' ∨ quote = '"')
      (htext : form ++ (newLine outdent ++ rest) = quote :: cs)
      (hread : ReadsQuoted quote cs s (newLine outdent ++ rest)) :
      ∃ i' l', Reaches 1 (inBlock ⟨form ++ (newLine outdent ++ rest), i, l, col⟩ n outer false ts)
        ((inBlock ⟨rest, i', l', outdent⟩ n outer true (ts ++ [.scalar (.ofList s) false])).unwind outdent) := by
    obtain ⟨i', l', col', hnext⟩ := exists_quoted?_scalar hform htext hread
    obtain ⟨i'', l'', hsettled⟩ := exists_settled?_newLine hrest.toStartsToken
    refine ⟨i'', l'', .of_next hne ?_ hsettled⟩
    rw [next?_of_quote hquote htext hcol]
    exact hnext
  cases h with
  | @plain s fold column h =>
    obtain ⟨c, cs, htext, -, hfirst, hmark, hsecond⟩ :=
      exists_plainForm h fold indent column (newLine outdent ++ rest)
    obtain ⟨i', l', hplain⟩ := exists_plain?_scalar h fold column hindent houtdent hrest
    refine ⟨i', l', .of_next hne ?_ (settled?_blanks (n := 0) hrest.toStartsToken)⟩
    rw [next?_of_startsPlain htext rfl hfirst hmark hsecond fun heq => absurd heq hcol]
    exact hplain
  | single fold column h =>
    have hapart : first (newLine outdent ++ rest) ≠ '\'' := (by decide : '\n' ≠ '\'')
    obtain ⟨cs, htext, hread⟩ := readsQuoted_singleForm hpos hapart h
    exact hquoted (.inl rfl) htext hread
  | double fold column s =>
    obtain ⟨cs, htext, hread⟩ := readsQuoted_doubleForm hpos hwidth fold column s (newLine outdent ++ rest)
    exact hquoted (.inr rfl) htext hread

end Scanner

end Emission.Yaml
