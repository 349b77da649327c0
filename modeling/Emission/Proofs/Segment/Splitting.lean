import Emission.Segment

/-!
# Splitting a table

How a table is cut so that each piece fits into one literal. Main statement: `segments_of_make`, nothing of a table
is lost, every piece fits, and no other way to cut the table into fitting pieces has fewer of them. The bound
behind the last two is `length_chunks_le_iff`: so many pieces are enough exactly if the table has at most that
many times `size` entries.
-/

namespace Emission.Segment

variable {α : Type} {size : Nat}

/-! ## The pieces -/

theorem length_le_of_mem_chunks {entries piece : List α} (h : piece ∈ chunks size entries) :
    piece.length ≤ size := by
  fun_induction chunks size entries with
  | case1 => cases h
  | case2 entries _ ih =>
    rcases List.mem_cons.mp h with rfl | hrest
    · exact List.length_take_le size entries
    · exact ih hrest

theorem nil_notMem_chunks (size : Nat) (entries : List α) : [] ∉ chunks size entries := by
  fun_induction chunks size entries with
  | case1 => exact List.not_mem_nil
  | case2 entries hmore ih =>
    intro h
    rcases List.mem_cons.mp h with htake | hrest
    · have hlength := congrArg List.length htake
      simp only [List.length_take, List.length_nil] at hlength
      omega
    · exact ih hrest

/-- A piece before another one is full. -/
theorem length_of_mem_dropLast_chunks {entries piece : List α}
    (h : piece ∈ (chunks size entries).dropLast) : piece.length = size := by
  fun_induction chunks size entries with
  | case1 => cases h
  | case2 entries hmore ih =>
    -- if anything is left behind the first piece, that piece is full
    by_cases hrest : chunks size (entries.drop size) = []
    · rw [hrest] at h
      cases h
    · rw [List.dropLast_cons_of_ne_nil hrest] at h
      rcases List.mem_cons.mp h with rfl | hlater
      · have hdrop : ¬(size = 0 ∨ (entries.drop size).length = 0) := by
          intro hnone
          rw [chunks, dif_pos hnone] at hrest
          exact hrest rfl
        simp only [List.length_drop] at hdrop
        simp only [List.length_take]
        omega
      · exact ih hlater

/-! ## Their number -/

/-- So many pieces are enough exactly if the table has no more entries than they can hold. -/
theorem length_chunks_le_iff (hsize : 0 < size) (entries : List α) (n : Nat) :
    (chunks size entries).length ≤ n ↔ entries.length ≤ n * size := by
  fun_induction chunks size entries generalizing n with
  | case1 entries hnone =>
    have : entries.length = 0 := by omega
    simp [this]
  | case2 entries hmore ih =>
    cases n with
    | zero =>
      simp only [List.length_cons]
      omega
    | succ n =>
      rw [List.length_cons, Nat.add_le_add_iff_right, ih, List.length_drop, Nat.succ_mul]
      omega

/-- Division with the sign changed before and after rounds up. -/
theorem neg_fdiv_neg_le_iff {n size k : Int} (hsize : 0 < size) :
    -((-n).fdiv size) ≤ k ↔ n ≤ k * size := by
  rw [Int.fdiv_eq_ediv_of_nonneg _ (by omega)]
  have hdiv : -k ≤ -n / size ↔ -k * size ≤ -n := Int.le_ediv_iff_mul_le hsize
  rw [Int.neg_mul] at hdiv
  omega

/-- Counting pieces agrees with cutting. -/
theorem count_length (hsize : 0 < size) (entries : List α) :
    count entries.length size = .ok (chunks size entries).length := by
  have hround (k : Int) : -((-(entries.length : Int)).fdiv size) ≤ k ↔ entries.length ≤ k * size :=
    neg_fdiv_neg_le_iff (by omega)
  have hcount : -((-(entries.length : Int)).fdiv size) = (chunks size entries).length := by
    generalize -((-(entries.length : Int)).fdiv size) = counted at hround
    have hnonneg : 0 ≤ counted := by
      have hbelow := hround (-1)
      omega
    obtain ⟨n, rfl⟩ := Int.eq_ofNat_of_zero_le hnonneg
    have hle := (length_chunks_le_iff hsize entries n).mpr (by
      have := (hround n).mp (Int.le_refl _)
      exact_mod_cast this)
    have hge := (hround (chunks size entries).length).mpr (by
      have := (length_chunks_le_iff hsize entries _).mp (Nat.le_refl _)
      exact_mod_cast this)
    omega
  rw [count, if_neg (by omega), if_neg (by omega), hcount]

theorem length_flatten_le {pieces : List (List α)} (h : ∀ piece ∈ pieces, piece.length ≤ size) :
    pieces.flatten.length ≤ pieces.length * size := by
  induction pieces with
  | nil => simp
  | cons piece pieces ih =>
    have hfirst := h piece List.mem_cons_self
    have hrest := ih fun p hp => h p (List.mem_cons_of_mem piece hp)
    rw [List.flatten_cons, List.length_append, List.length_cons, Nat.succ_mul]
    omega

/-- No way to cut a table into pieces of that size has fewer of them. -/
theorem length_chunks_le (hsize : 0 < size) {entries : List α} {pieces : List (List α)}
    (hpieces : pieces.flatten = entries) (hfit : ∀ piece ∈ pieces, piece.length ≤ size) :
    (chunks size entries).length ≤ pieces.length := by
  rw [length_chunks_le_iff hsize, ← hpieces]
  exact length_flatten_le hfit

/-- A size below one is refused, whatever is cut or counted. -/
theorem split_and_count_of_not_pos {size : Int} (h : size < 1) (entries : List α) (n : Int) :
    split entries size = .error (.segmentSizeNotPositive size) ∧
      count n size = .error (.segmentSizeNotPositive size) := by
  rw [split, count, if_pos h, if_pos h]
  exact ⟨rfl, rfl⟩

end Emission.Segment

namespace Emission.Target.Limits

open Segment (chunks)

variable {overloading : Bool} {limit width : Int} {l : Limits}

theorem eq_of_make (h : make overloading limit width = .ok l) :
    limit = l.literalLimit ∧ width = l.entryWidth := by
  unfold make at h
  split at h
  · cases h
  · split at h
    · cases h
    · split at h
      · cases h
      · obtain rfl := Except.ok.inj h
        constructor <;> simp only <;> omega

/-- Entries fit into one literal exactly if they are no more than the size of a segment. -/
theorem le_segmentSize_iff (h : make overloading limit width = .ok l) (n : Nat) :
    n ≤ l.segmentSize ↔ n * width ≤ limit := by
  obtain ⟨rfl, rfl⟩ := eq_of_make h
  rw [segmentSize, Nat.le_div_iff_mul_le l.width_pos]
  exact_mod_cast Iff.rfl

/-- With any limits that can be made, a table is cut into pieces that make it up again in order. None of them is
empty, all but the last have the size of a segment, each fits into a literal, they are as many as are counted,
and no other way to cut the table into pieces that fit has fewer. A size below one is refused. -/
theorem segments_of_make (h : make overloading limit width = .ok l) :
    (∀ {α : Type} (entries : List α), ∃ pieces, l.segments entries = .ok pieces ∧
      pieces.flatten = entries ∧ [] ∉ pieces ∧
      (∀ piece ∈ pieces.dropLast, piece.length = limit / width) ∧
      (∀ piece ∈ pieces, piece.length * width ≤ limit) ∧
      Segment.count entries.length l.segmentSize = .ok pieces.length ∧
      ∀ others : List (List α), others.flatten = entries →
        (∀ piece ∈ others, piece.length * width ≤ limit) → pieces.length ≤ others.length) ∧
    l.segmentSize = limit / width ∧
    ∀ size < 1, (∀ {α : Type} (entries : List α),
        Segment.split entries size = .error (.segmentSizeNotPositive size)) ∧
      ∀ n, Segment.count n size = .error (.segmentSizeNotPositive size) := by
  have hsize : l.segmentSize = limit / width := by
    obtain ⟨rfl, rfl⟩ := eq_of_make h
    rfl
  -- the limits were checked when they were made, so the size is positive
  have hpos := l.segmentSize_pos
  refine ⟨fun entries => ⟨chunks l.segmentSize entries, l.segments_eq entries,
    Segment.flatten_chunks hpos entries, Segment.nil_notMem_chunks _ entries, ?_, ?_,
    Segment.count_length hpos entries, ?_⟩, hsize, ?_⟩
  · intro piece hpiece
    rw [Segment.length_of_mem_dropLast_chunks hpiece, hsize]
  · intro piece hpiece
    exact (le_segmentSize_iff h _).mp (Segment.length_le_of_mem_chunks hpiece)
  · intro others hflatten hfit
    exact Segment.length_chunks_le hpos hflatten fun piece hpiece =>
      (le_segmentSize_iff h _).mpr (hfit piece hpiece)
  · intro size hbelow
    exact ⟨fun entries => (Segment.split_and_count_of_not_pos hbelow entries 0).1,
      fun n => (Segment.split_and_count_of_not_pos hbelow ([] : List Unit) n).2⟩

/-- Literals of seven bytes with entries of three bytes: two entries for each of them. -/
theorem segments_of_make_seven :
    ∃ l : Limits, make false 7 3 = .ok l ∧
      l.segments [4, 5, 6, 7, 8] = .ok [[4, 5], [6, 7], [8]] ∧
      Segment.count 5 l.segmentSize = .ok 3 ∧ l.segmentSize = (2 : Int) ∧
      Segment.count (-1) 0 = .error (.segmentSizeNotPositive 0) := by
  obtain ⟨l, hmake⟩ : ∃ l, make false 7 3 = .ok l := ⟨_, rfl⟩
  obtain ⟨hpieces, hsize, hrefused⟩ := segments_of_make hmake
  obtain ⟨pieces, hsegments, -, -, -, -, hcount, -⟩ := hpieces [4, 5, 6, 7, 8]
  have hl : l.segmentSize = 2 := by exact_mod_cast hsize
  have hchunks : l.segments [4, 5, 6, 7, 8] = .ok [[4, 5], [6, 7], [8]] := by
    rw [segments_eq, hl]
    simp [chunks]
  obtain rfl := Except.ok.inj (hsegments.symm.trans hchunks)
  exact ⟨l, hmake, hchunks, hcount, hsize, (hrefused 0 (by decide)).2 (-1)⟩

end Emission.Target.Limits
