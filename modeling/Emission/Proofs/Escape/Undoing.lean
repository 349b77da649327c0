import Emission.Proofs.Escape.Translation
import Emission.Proofs.Text.Search

/-!
# Undoing re-escaping

Re-escaping writes the backslash of each backslash-`u` as an escape of its own. What stands behind it stays as it
is, so each character is looked at on its own, with one more to know whether it is such a backslash. Main statement:
`reescape_undone_and_append`, putting a backslash back for each of these escapes gives the text, and a text can be
re-escaped in pieces unless one of the cuts parts a backslash from its `u`.
-/

namespace Emission.Escape

open Text (occurrences)

/-- A backslash and a `u`, which is what re-escaping looks for. -/
def unicodeMark : List Char := ['\\', 'u']

/-- What a mark is re-escaped as. -/
def reescapedMark : List Char := slashEscape ++ ['u']

/-! ## One character -/

theorem unicodeMark_prefix_cons_iff {c : Char} {rest : List Char} :
    unicodeMark <+: c :: rest ↔ c = '\\' ∧ rest.head? = some 'u' := by
  cases rest with
  | nil => simp [unicodeMark]
  | cons d rest => simp [unicodeMark, eq_comm]

/-- A backslash before a `u` is written as an escape, any other character as itself. -/
theorem reescapeChars_cons (c : Char) (rest : List Char) :
    reescapeChars (c :: rest) =
      (if unicodeMark <+: c :: rest then slashEscape else [c]) ++ reescapeChars rest := by
  split
  · next hmark =>
    obtain ⟨rfl, hhead⟩ := unicodeMark_prefix_cons_iff.mp hmark
    obtain ⟨more, rfl⟩ := List.head?_eq_some_iff.mp hhead
    rw [reescapeChars, reescapeChars.eq_2 'u' more fun _ hc => absurd hc (by decide)]
    rfl
  · next hmark =>
    refine reescapeChars.eq_2 c rest fun more hc hrest => hmark ?_
    exact unicodeMark_prefix_cons_iff.mpr ⟨hc, by rw [hrest]; rfl⟩

/-! ## The whole text -/

/-- Each mark makes a text longer by five characters. -/
theorem length_reescapeChars (cs : List Char) :
    (reescapeChars cs).length = cs.length + 5 * occurrences unicodeMark cs := by
  induction cs with
  | nil => rfl
  | cons c rest ih =>
    rw [reescapeChars_cons, List.length_append, ih, Text.occurrences_cons, List.length_cons]
    split
    · have : slashEscape.length = 6 := rfl
      omega
    · rw [List.length_singleton]
      omega

theorem reescapeChars_eq_self_iff {cs : List Char} : reescapeChars cs = cs ↔ ¬unicodeMark <:+: cs := by
  constructor
  · intro hsame
    have hlength := length_reescapeChars cs
    rw [hsame] at hlength
    exact Text.occurrences_eq_zero_iff.mp (by omega)
  · intro hno
    induction cs with
    | nil => rfl
    | cons c rest ih =>
      rw [List.infix_cons_iff, not_or] at hno
      rw [reescapeChars_cons, if_neg hno.1, ih hno.2]
      rfl

/-- Where a mark was re-escaped it is put back, and nowhere else does its escaped form stand. -/
theorem replaceFrom_reescapeChars {cs : List Char} {count : Nat} (hcount : cs.length ≤ count) :
    Text.replaceFrom reescapedMark unicodeMark count 0 (reescapeChars cs) = cs := by
  fun_induction reescapeChars cs generalizing count with
  | case1 rest ih =>
    obtain ⟨count, rfl⟩ : ∃ n, count = n + 1 := Nat.exists_eq_add_one.mpr (Nat.lt_of_lt_of_le (by simp) hcount)
    have hrest : rest.length ≤ count := by
      simp only [List.length_cons] at hcount
      omega
    have hne : reescapedMark ≠ [] := by decide
    refine (Text.replaceFrom_append hne unicodeMark count _).trans ?_
    rw [ih hrest]
    rfl
  | case2 c rest hother ih =>
    have hno : ¬reescapedMark <+: c :: reescapeChars rest := by
      rintro ⟨after, hafter⟩
      obtain ⟨hc, hafter⟩ := List.cons.inj hafter
      have hhead : rest.head? = some 'u' := by
        rw [← head?_reescapeChars, ← hafter]
        rfl
      obtain ⟨more, hrest⟩ := List.head?_eq_some_iff.mp hhead
      exact hother more hc.symm hrest
    rw [Text.replaceFrom_cons_of_not_prefix hno, ih (Nat.le_of_succ_le hcount)]
  | case3 => rfl

/-! ## Pieces -/

/-- Where two texts meet, a backslash comes to stand before a `u`. -/
def MarkBetween (front back : List Char) : Prop :=
  front.getLast? = some '\\' ∧ back.head? = some 'u'

theorem reescapeChars_append {front back : List Char} (h : ¬MarkBetween front back) :
    reescapeChars (front ++ back) = reescapeChars front ++ reescapeChars back := by
  induction front with
  | nil => rfl
  | cons c front ih =>
    have hrest : ¬MarkBetween front back := by
      rintro ⟨hlast, hhead⟩
      exact h ⟨by rw [List.getLast?_cons, hlast]; rfl, hhead⟩
    have hmark : unicodeMark <+: c :: (front ++ back) ↔ unicodeMark <+: c :: front := by
      rw [unicodeMark_prefix_cons_iff, unicodeMark_prefix_cons_iff]
      cases front with
      | nil =>
        -- only here the next character is one of the other text
        refine ⟨fun ⟨hc, hhead⟩ => absurd ⟨?_, hhead⟩ h, fun ⟨_, hno⟩ => nomatch hno⟩
        rw [hc]
        rfl
      | cons d more => rfl
    rw [List.cons_append, reescapeChars_cons, reescapeChars_cons, ih hrest, List.append_assoc]
    simp only [hmark]

theorem reescapeChars_append_iff {front back : List Char} :
    reescapeChars (front ++ back) = reescapeChars front ++ reescapeChars back ↔
      ¬MarkBetween front back := by
  refine ⟨?_, reescapeChars_append⟩
  rintro hsplit ⟨hlast, hhead⟩
  obtain ⟨front, rfl⟩ := List.getLast?_eq_some_iff.mp hlast
  obtain ⟨back, rfl⟩ := List.head?_eq_some_iff.mp hhead
  -- the mark at the seam is one more than there are in the two texts
  have hbefore (rest : List Char) : reescapeChars (front ++ '\\' :: rest) =
      reescapeChars front ++ reescapeChars ('\\' :: rest) := by
    refine reescapeChars_append ?_
    rintro ⟨-, hno⟩
    cases hno
  rw [List.append_assoc, List.singleton_append, hbefore, hbefore, List.append_assoc] at hsplit
  have hlength := congrArg List.length (List.append_cancel_left hsplit)
  rw [List.length_append, length_reescapeChars, length_reescapeChars, length_reescapeChars,
    Text.occurrences_cons, if_pos (unicodeMark_prefix_cons_iff.mpr ⟨rfl, rfl⟩)] at hlength
  have hlone : occurrences unicodeMark ['\\'] = 0 := rfl
  rw [hlone, List.length_cons, List.length_singleton] at hlength
  omega

/-! ## Texts -/

/-- Whatever a text says, putting the marks back from left to right undoes its re-escaping, so no two texts are
re-escaped alike. Only a text with a mark in it changes, by five more characters for each mark. A text is re-escaped
piece by piece exactly if no mark stands across a cut. -/
theorem reescape_undone_and_append :
    Function.Injective reescape ∧ ∀ s : String,
      Text.replace "\\u005Cu" "\\u" none (reescape s) = s ∧
      (reescape s = s ↔ ¬"\\u".toList <:+: s.toList) ∧
      (reescape s).length = s.length + 5 * occurrences "\\u".toList s.toList ∧
      ∀ t : String, reescape (s ++ t) = reescape s ++ reescape t ↔
        ¬(s.toList.getLast? = some '\\' ∧ t.toList.head? = some 'u') := by
  have hmark : "\\u".toList = unicodeMark := rfl
  have hlength (s : String) :
      (reescape s).length = s.length + 5 * occurrences unicodeMark s.toList := by
    rw [← String.length_toList, ← String.length_toList, toList_reescape, length_reescapeChars]
  have hundone (s : String) : Text.replace "\\u005Cu" "\\u" none (reescape s) = s := by
    have hescaped : "\\u005Cu".toList = reescapedMark := rfl
    -- replacing takes no more rounds than there are characters
    have hcount : s.toList.length ≤ (reescape s).toList.length + 1 := by
      rw [toList_reescape, length_reescapeChars]
      omega
    have hempty : "\\u005Cu".isEmpty = false := by decide
    rw [Text.replace, Option.getD_none, if_neg (by rw [hempty]; decide), hescaped, hmark]
    rw [toList_reescape] at hcount ⊢
    rw [replaceFrom_reescapeChars hcount, String.ofList_toList]
  refine ⟨Function.LeftInverse.injective hundone, fun s => ⟨hundone s, ?_, hlength s, fun t => ?_⟩⟩
  · rw [hmark, ← reescapeChars_eq_self_iff, ← String.toList_inj, toList_reescape]
  · rw [← String.toList_inj, String.toList_append, toList_reescape, toList_reescape, toList_reescape,
      String.toList_append]
    exact reescapeChars_append_iff

/-- A text that holds the escaped form of a mark already is told apart from the mark. -/
example : reescape "\\u005Cu" = "\\u005Cu005Cu" := by decide +kernel

end Emission.Escape
