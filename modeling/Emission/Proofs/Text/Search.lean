import Emission.Text.Search
import Mathlib.Data.List.Infix

/-!
# Occurrences and replacements

At how many places a text goes on with a given part, and one step of a replacement: where the part stands it is
replaced and the text behind it is next, elsewhere a character is passed on.
-/

namespace Emission.Text

variable {part new rest : List Char} {c : Char} {count : Nat}

/-! ## Occurrences -/

/-- At how many places a text goes on with `part`. -/
def occurrences (part cs : List Char) : Nat := cs.tails.countP part.isPrefixOf

theorem occurrences_cons (part : List Char) (c : Char) (rest : List Char) :
    occurrences part (c :: rest) = occurrences part rest + if part <+: c :: rest then 1 else 0 := by
  rw [occurrences, List.tails_cons, List.countP_cons]
  simp only [List.isPrefixOf_iff_prefix]
  rfl

theorem occurrences_eq_zero_iff {cs : List Char} : occurrences part cs = 0 ↔ ¬part <:+: cs := by
  rw [occurrences, List.countP_eq_zero, List.infix_iff_prefix_suffix]
  simp only [List.mem_tails, List.isPrefixOf_iff_prefix]
  constructor
  · rintro hno ⟨t, hprefix, hsuffix⟩
    exact hno t hsuffix hprefix
  · intro hno t hsuffix hprefix
    exact hno ⟨t, hprefix, hsuffix⟩

/-! ## Replacing -/

/-- What belongs to an occurrence that was replaced is passed over. -/
theorem replaceFrom_skip (part new : List Char) (count : Nat) (front rest : List Char) :
    replaceFrom part new count front.length (front ++ rest) = replaceFrom part new count 0 rest := by
  induction front with
  | nil => rfl
  | cons c front ih =>
    rw [List.length_cons, List.cons_append, replaceFrom]
    exact ih

theorem replaceFrom_append (hne : part ≠ []) (new : List Char) (count : Nat) (rest : List Char) :
    replaceFrom part new (count + 1) 0 (part ++ rest) = new ++ replaceFrom part new count 0 rest := by
  have hfound : (dropPrefix? part (part ++ rest)).isSome := by
    rw [dropPrefix?_eq_some.mpr rfl]
    rfl
  cases part with
  | nil => exact absurd rfl hne
  | cons p ps =>
    rw [List.cons_append] at hfound ⊢
    rw [replaceFrom, if_pos hfound]
    exact congrArg (new ++ ·) (replaceFrom_skip (p :: ps) new count ps rest)

theorem replaceFrom_cons_of_not_prefix (h : ¬part <+: c :: rest) :
    replaceFrom part new count 0 (c :: rest) = c :: replaceFrom part new count 0 rest := by
  have hnone : ¬(dropPrefix? part (c :: rest)).isSome := by
    intro hsome
    obtain ⟨after, hafter⟩ := Option.isSome_iff_exists.mp hsome
    exact h ⟨after, (dropPrefix?_eq_some.mp hafter).symm⟩
  cases count with
  | zero => cases rest <;> rfl
  | succ count => rw [replaceFrom, if_neg hnone]

end Emission.Text
