import Emission.Text.Search

/-!
# Lists in ascending order

What sorting does to a list of texts. Main statements: `pairwise_lt_sorted`, texts that are all different come
out in strictly ascending order, and `sortedSet_of_pairwise`, a list that is in such order already stays as it
is.
-/

namespace Emission.Text

theorem pairwise_sorted (xs : List String) :
    (sorted xs).Pairwise fun s t => (!decide (t < s)) = true := by
  apply List.pairwise_mergeSort
  · intro s t u hst htu
    simp only [Bool.not_eq_eq_eq_not, Bool.not_true, decide_eq_false_iff_not, String.not_lt] at hst htu ⊢
    exact String.le_trans hst htu
  · intro s t
    simp only [Bool.or_eq_true, Bool.not_eq_eq_eq_not, Bool.not_true, decide_eq_false_iff_not,
      String.not_lt]
    exact String.le_total s t

theorem length_sorted (xs : List String) : (sorted xs).length = xs.length := List.length_mergeSort _

/-- Texts that are all different come out in strictly ascending order. -/
theorem pairwise_lt_sorted {xs : List String} (hxs : xs.Nodup) : (sorted xs).Pairwise (· < ·) := by
  have hnodup : (sorted xs).Nodup := (List.mergeSort_perm xs _).nodup_iff.mpr hxs
  refine ((pairwise_sorted xs).and hnodup).imp ?_
  intro s t hst
  obtain ⟨hle, hne⟩ := hst
  simp only [Bool.not_eq_eq_eq_not, Bool.not_true, decide_eq_false_iff_not] at hle
  exact String.not_le.mp fun hts => hne (String.le_antisymm (String.not_lt.mp hle) hts)

/-- Once the repetitions are dropped, ascending order is strict. -/
theorem pairwise_lt_dropRepeats {xs : List String} (h : xs.Pairwise fun s t => (!decide (t < s)) = true) :
    (dropRepeats xs).Pairwise (· < ·) := by
  induction xs with
  | nil => exact List.Pairwise.nil
  | cons s rest ih =>
    rw [List.pairwise_cons] at h
    have hrest := ih h.2
    have hmem : ∀ t ∈ dropRepeats rest, ¬t < s := fun t ht => by simpa using h.1 t (mem_dropRepeats.mp ht)
    rw [dropRepeats]
    split
    · exact List.pairwise_singleton _ s
    · next t more hmore =>
      rw [hmore] at hrest hmem
      split
      · exact hrest
      · next hne =>
        -- the first item is below the next one, and the next one below all others
        have hlt : s < t := by
          have hle : s ≤ t := String.not_lt.mp (hmem t List.mem_cons_self)
          exact String.not_le.mp fun hts => hne (String.le_antisymm hle hts)
        refine List.pairwise_cons.mpr ⟨fun u hu => ?_, hrest⟩
        rcases List.mem_cons.mp hu with rfl | hu
        · exact hlt
        · exact String.lt_trans hlt ((List.pairwise_cons.mp hrest).1 u hu)

theorem pairwise_lt_sortedSet (xs : List String) : (sortedSet xs).Pairwise (· < ·) :=
  pairwise_lt_dropRepeats (pairwise_sorted xs)

theorem dropRepeats_of_pairwise {xs : List String} (h : xs.Pairwise (· < ·)) :
    dropRepeats xs = xs := by
  induction xs with
  | nil => rfl
  | cons s rest ih =>
    rw [List.pairwise_cons] at h
    rw [dropRepeats, ih h.2]
    cases rest with
    | nil => rfl
    | cons t more =>
      have hne : s ≠ t := by
        rintro rfl
        exact String.lt_irrefl s (h.1 s List.mem_cons_self)
      simp only [if_neg hne]

theorem sortedSet_of_pairwise {xs : List String} (h : xs.Pairwise (· < ·)) : sortedSet xs = xs := by
  have hsorted : xs.Pairwise fun s t => (!decide (t < s)) = true :=
    h.imp fun hst => by simpa using String.lt_asymm hst
  rw [sortedSet, sorted, List.mergeSort_of_pairwise hsorted, dropRepeats_of_pairwise h]

end Emission.Text
