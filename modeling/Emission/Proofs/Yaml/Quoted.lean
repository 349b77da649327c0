import Emission.Proofs.Json.Document
import Emission.Yaml.Plain

/-!
# Reading between quotes

What a quoted scalar is read as, put together from what its characters, escapes, blanks and line breaks are read as.
White space is read in one step up to its end, so what is said of one blank or line feed is about the white space that
begins with it. Main statements: the rules of `ReadsQuoted`.
-/

namespace Emission.Yaml

open Json (InDocument)

variable {quote c : Char} {cs s t bs after rest : List Char} {indent : Nat}

/-! ## White space -/

/-- A character that neither is a blank nor ends a line. -/
def IsSolid (c : Char) : Prop := isSpaceOrTab c = false ∧ isBreak c = false

instance (c : Char) : Decidable (IsSolid c) := inferInstanceAs (Decidable (_ ∧ _))

/-- A text starts with a character that is no white space. -/
def StartsSolid (cs : List Char) : Prop := ∃ c tail, cs = c :: tail ∧ IsSolid c

/-- A line goes on behind the blanks that it starts with. -/
def Continues (cs : List Char) : Prop := StartsSolid (cs.dropWhile isSpaceOrTab)

theorem StartsSolid.continues (h : StartsSolid cs) : Continues cs := by
  obtain ⟨c, tail, rfl, hc⟩ := h
  exact ⟨c, tail, List.dropWhile_cons_of_neg (by simp [hc.1]), hc⟩

theorem Continues.blank (h : Continues cs) : Continues (' ' :: cs) := h

theorem isBreak_first (h : StartsSolid cs) : isBreak (first cs) = false := by
  obtain ⟨c, tail, rfl, hc⟩ := h
  exact hc.2

theorem dropWhile_blanks (h : StartsSolid cs) :
    (List.replicate indent ' ' ++ cs).dropWhile isSpaceOrTab = cs := by
  obtain ⟨c, tail, rfl, hc⟩ := h
  rw [List.dropWhile_append_of_pos fun d hd => by rw [List.eq_of_mem_replicate hd]; rfl]
  exact List.dropWhile_cons_of_neg (by simp [hc.1])

theorem printable_of_not_special (h : isSpecial c = false) (hne : c ≠ '\n') : Json.Printable c := by
  simpa [isSpecial, hne, Json.Printable] using h

theorem isSolid_of_printable (h : Json.Printable c) (hne : c ≠ ' ') : IsSolid c := by
  have hother {d : Char} (hd : ¬Json.Printable d) : c ≠ d := by
    rintro rfl
    exact hd h
  simp only [IsSolid, isSpaceOrTab, isBreak, Bool.or_eq_false_iff, beq_eq_false_iff_ne]
  exact ⟨⟨hne, hother (by decide)⟩, ⟨⟨⟨hother (by decide), hother (by decide)⟩, hother (by decide)⟩,
    hother (by decide)⟩, hother (by decide)⟩

theorem printable_blanks (n : Nat) : ∀ c ∈ List.replicate n ' ', Json.Printable c := by
  intro c hc
  obtain rfl := List.eq_of_mem_replicate hc
  decide

theorem inDocument_newLine (indent : Nat) : ∀ c ∈ newLine indent, InDocument c :=
  List.forall_mem_cons.mpr ⟨.inr rfl, fun c hc => .inl (printable_blanks indent c hc)⟩

/-! ## Reading -/

/-- Behind its opening quote a scalar is read as a text, up to what follows its closing quote. -/
def ReadsQuoted (quote : Char) (cs t rest : List Char) : Prop :=
  ∀ fuel, cs.length < fuel → readQuoted? quote fuel cs = some (t, rest)

/-- At the start of a line inside quotes these breaks are read, up to the text behind them. -/
structure ReadsBreaks (cs bs after : List Char) : Prop where
  read : quotedBreaks? cs.length cs = some (bs, after)
  length_le : after.length ≤ cs.length

theorem ReadsBreaks.more (h : ReadsBreaks cs bs after) : ReadsBreaks ('\n' :: cs) ('\n' :: bs) after := by
  refine ⟨?_, Nat.le_succ_of_le h.length_le⟩
  have hseparator : atSeparator ('\n' :: cs) = false := rfl
  have hdrop : ('\n' :: cs).dropWhile isSpaceOrTab = '\n' :: cs := rfl
  have hbreak : isBreak (first ('\n' :: cs)) = true := rfl
  have htake : takeBreak ('\n' :: cs) = (['\n'], cs) := rfl
  simp only [List.length_cons, quotedBreaks?, hseparator, hdrop, hbreak, htake, if_true, h.read,
    Option.map_some, List.cons_append, List.nil_append, Bool.false_eq_true, if_false]

/-- The indentation of a line with text is passed over. -/
theorem readsBreaks_blanks (hindent : 0 < indent) (h : StartsSolid cs) :
    ReadsBreaks (List.replicate indent ' ' ++ cs) [] cs := by
  match indent, hindent with
  | n + 1, _ =>
    have hseparator : atSeparator (List.replicate (n + 1) ' ' ++ cs) = false := rfl
    have hlength : (List.replicate (n + 1) ' ' ++ cs).length = (List.replicate n ' ' ++ cs).length + 1 := rfl
    refine ⟨?_, ?_⟩
    · simp only [hlength, quotedBreaks?, hseparator, dropWhile_blanks h, isBreak_first h,
        Bool.false_eq_true, if_false]
    · rw [List.length_append]
      exact Nat.le_add_left _ _

namespace ReadsQuoted

theorem close (h : quote = '\'' → first rest ≠ '\'') : ReadsQuoted quote (quote :: rest) [] rest := by
  intro fuel hfuel
  match fuel, hfuel with
  | fuel + 1, _ =>
    rw [readQuoted?, if_neg, if_pos rfl]
    rintro ⟨rfl, -, hfirst⟩
    exact h rfl hfirst

theorem char (hquote : c ≠ quote) (hslash : quote = '"' → c ≠ '\\') (hc : IsSolid c)
    (h : ReadsQuoted quote cs t rest) : ReadsQuoted quote (c :: cs) (c :: t) rest := by
  intro fuel hfuel
  match fuel, hfuel with
  | fuel + 1, hfuel =>
    rw [readQuoted?, if_neg, if_neg hquote, if_neg, if_neg]
    · rw [h fuel (Nat.lt_of_succ_lt_succ hfuel)]
      rfl
    · simp [hc.1, hc.2]
    · exact fun heq => hslash heq.1 heq.2
    · exact fun heq => hquote (heq.2.1.trans heq.1.symm)

theorem twice (h : ReadsQuoted '\'' cs t rest) : ReadsQuoted '\'' ('\'' :: '\'' :: cs) ('\'' :: t) rest := by
  intro fuel hfuel
  match fuel, hfuel with
  | fuel + 1, hfuel =>
    have hdrop : ('\'' :: cs).drop 1 = cs := rfl
    have hread := h fuel (Nat.lt_of_succ_lt (Nat.lt_of_succ_lt_succ hfuel))
    rw [readQuoted?, if_pos ⟨rfl, rfl, rfl⟩, hdrop, hread]
    rfl

theorem escape (hescape : readEscape? cs = some (s, after)) (hlength : after.length ≤ cs.length)
    (h : ReadsQuoted '"' after t rest) : ReadsQuoted '"' ('\\' :: cs) (s ++ t) rest := by
  intro fuel hfuel
  match fuel, hfuel with
  | fuel + 1, hfuel =>
    have hread := h fuel (Nat.lt_of_le_of_lt hlength (Nat.lt_of_succ_lt_succ hfuel))
    have hsingle : ¬(('"' : Char) = '\'' ∧ '\\' = '\'' ∧ first cs = '\'') := fun heq => absurd heq.1 (by decide)
    rw [readQuoted?, if_neg hsingle, if_neg (by decide), if_pos ⟨rfl, rfl⟩, hescape]
    dsimp only
    rw [hread]
    rfl

/-- White space is read in one step, from its first character on. -/
theorem readQuoted?_space {fuel : Nat} (hquote : c ≠ quote) (hslash : c ≠ '\\')
    (hc : (isSpaceOrTab c || isBreak c) = true) :
    readQuoted? quote (fuel + 1) (c :: cs) =
      match quotedSpace? (c :: cs) with
      | none => none
      | some (s, after) => (readQuoted? quote fuel after).map fun (t, after) => (s ++ t, after) := by
  have hsingle : ¬(quote = '\'' ∧ c = '\'' ∧ first cs = '\'') := fun heq => hquote (heq.2.1.trans heq.1.symm)
  rw [readQuoted?, if_neg hsingle, if_neg hquote, if_neg fun heq => hslash heq.2]
  exact if_pos hc

theorem quotedSpace?_blanks (h : Continues cs) :
    quotedSpace? cs = some (cs.takeWhile isSpaceOrTab, cs.dropWhile isSpaceOrTab) := by
  have hbreak := isBreak_first h
  obtain ⟨d, tail, hdrop, -⟩ := h
  rw [hdrop] at hbreak
  rw [quotedSpace?, hdrop, hbreak]
  rfl

/-- The text of a line that goes on starts with its blanks. -/
theorem of_blanks {d : Char} (hquote : isSpaceOrTab quote = false) (hd : isSpaceOrTab d = true)
    (hcs : Continues (d :: cs)) (h : ReadsQuoted quote (d :: cs) t rest) {fuel : Nat}
    (hfuel : (d :: cs).length ≤ fuel) :
    ∃ t', t = (d :: cs).takeWhile isSpaceOrTab ++ t' ∧
      readQuoted? quote fuel ((d :: cs).dropWhile isSpaceOrTab) = some (t', rest) := by
  have hne : d ≠ quote := by
    rintro rfl
    rw [hd] at hquote
    cases hquote
  have hslash : d ≠ '\\' := by
    rintro rfl
    cases hd
  have hread := h (fuel + 1) (Nat.lt_succ_of_le hfuel)
  rw [readQuoted?_space hne hslash (by simp [hd]), quotedSpace?_blanks hcs] at hread
  obtain ⟨⟨t', rest'⟩, hafter, heq⟩ := Option.map_eq_some_iff.mp hread
  obtain ⟨rfl, rfl⟩ := Prod.mk.inj heq
  exact ⟨t', rfl, hafter⟩

theorem blank (hquote : isSpaceOrTab quote = false) (hcs : Continues cs) (h : ReadsQuoted quote cs t rest) :
    ReadsQuoted quote (' ' :: cs) (' ' :: t) rest := by
  have hne : ' ' ≠ quote := by
    rintro rfl
    cases hquote
  obtain ⟨d, cs, rfl⟩ : ∃ d tail, cs = d :: tail := by
    cases cs with
    | nil =>
      obtain ⟨d, tail, hnil, -⟩ := hcs
      cases hnil
    | cons d tail => exact ⟨d, tail, rfl⟩
  intro fuel hfuel
  match fuel, hfuel with
  | fuel + 1, hfuel =>
    have hlength : (d :: cs).length < fuel := Nat.lt_of_succ_lt_succ hfuel
    have htake : (' ' :: d :: cs).takeWhile isSpaceOrTab = ' ' :: (d :: cs).takeWhile isSpaceOrTab := rfl
    have hdrop : (' ' :: d :: cs).dropWhile isSpaceOrTab = (d :: cs).dropWhile isSpaceOrTab := rfl
    rw [readQuoted?_space hne (by decide) rfl, quotedSpace?_blanks hcs.blank, htake, hdrop]
    dsimp only
    cases hd : isSpaceOrTab d with
    | false =>
      rw [List.takeWhile_cons_of_neg (by simp [hd]), List.dropWhile_cons_of_neg (by simp [hd]), h fuel hlength]
      rfl
    | true =>
      -- the blank is read together with those behind it
      obtain ⟨t', rfl, hread⟩ := of_blanks hquote hd hcs h (Nat.le_of_lt hlength)
      rw [hread]
      rfl

theorem breaks (hquote : isBreak quote = false) (hbreaks : ReadsBreaks cs bs after)
    (h : ReadsQuoted quote after t rest) :
    ReadsQuoted quote ('\n' :: cs) (foldBreaks ['\n'] bs ++ t) rest := by
  have hne : '\n' ≠ quote := by
    rintro rfl
    cases hquote
  have hspace : quotedSpace? ('\n' :: cs) = some (foldBreaks ['\n'] bs, after) := by
    have hdrop : ('\n' :: cs).dropWhile isSpaceOrTab = '\n' :: cs := rfl
    have hbreak : isBreak (first ('\n' :: cs)) = true := rfl
    have htake : takeBreak ('\n' :: cs) = (['\n'], cs) := rfl
    simp only [quotedSpace?, hdrop, List.isEmpty_cons, hbreak, htake, hbreaks.read, Option.map_some, if_true,
      Bool.false_eq_true, if_false]
  intro fuel hfuel
  match fuel, hfuel with
  | fuel + 1, hfuel =>
    have hread := h fuel (Nat.lt_of_le_of_lt hbreaks.length_le (Nat.lt_of_succ_lt_succ hfuel))
    rw [readQuoted?_space hne (by decide) rfl, hspace]
    dsimp only
    rw [hread]
    rfl

end ReadsQuoted

end Emission.Yaml
