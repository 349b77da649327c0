/-!
# Entries under keys

Lists in which each entry stands under a key, and setting and removing the entry of a key in them. Main
statements: `lookup_put` and `lookup_filter_ne`, each changes what is found under its key and nothing else.
-/

namespace Emission.Entries

variable {α : Type}

/-- Sets the entry of a key; a key that is there keeps its place. -/
def put (key : String) (x : α) : List (String × α) → List (String × α)
  | [] => [(key, x)]
  | (k, y) :: rest => if k = key then (k, x) :: rest else (k, y) :: put key x rest

theorem lookup_put (key other : String) (x : α) (es : List (String × α)) :
    (put key x es).lookup other = if other = key then some x else es.lookup other := by
  induction es with
  | nil =>
    rw [put, List.lookup_cons]
    by_cases ho : other = key
    · simp [ho]
    · simp [ho, beq_eq_false_iff_ne.mpr ho]
  | cons e rest ih =>
    obtain ⟨k, y⟩ := e
    rw [put]
    by_cases hk : k = key
    · subst hk
      rw [if_pos rfl, List.lookup_cons, List.lookup_cons]
      by_cases ho : other = k
      · simp [ho]
      · simp [ho, beq_eq_false_iff_ne.mpr ho]
    · rw [if_neg hk, List.lookup_cons, List.lookup_cons, ih]
      by_cases ho : other = k
      · subst ho
        simp [hk]
      · simp [beq_eq_false_iff_ne.mpr ho]

theorem lookup_filter_ne (key other : String) (es : List (String × α)) :
    (es.filter (·.1 ≠ key)).lookup other = if other = key then none else es.lookup other := by
  induction es with
  | nil => simp
  | cons e rest ih =>
    obtain ⟨k, h⟩ := e
    by_cases hk : k = key
    · subst hk
      rw [List.filter_cons_of_neg (by simp), ih, List.lookup_cons]
      by_cases ho : other = k
      · simp [ho]
      · simp [ho, beq_eq_false_iff_ne.mpr ho]
    · rw [List.filter_cons_of_pos (by simpa using hk), List.lookup_cons, List.lookup_cons, ih]
      by_cases ho : other = k
      · subst ho
        simp [hk]
      · simp [beq_eq_false_iff_ne.mpr ho]

theorem keys_put (key : String) (x : α) (es : List (String × α)) :
    (put key x es).map (·.1) =
      if key ∈ es.map (·.1) then es.map (·.1) else es.map (·.1) ++ [key] := by
  induction es with
  | nil => rfl
  | cons e rest ih =>
    obtain ⟨k, y⟩ := e
    by_cases hk : k = key
    · subst hk
      simp [put]
    · have hne : key ≠ k := Ne.symm hk
      simp only [put, hk, if_false, List.map_cons, ih, List.mem_cons, hne, false_or]
      split <;> rfl

/-- A new key comes behind those that are there. -/
theorem put_of_notMem {key : String} {es : List (String × α)} (h : key ∉ es.map (·.1)) (x : α) :
    put key x es = es ++ [(key, x)] := by
  induction es with
  | nil => rfl
  | cons e rest ih =>
    obtain ⟨k, y⟩ := e
    have hne : k ≠ key := by
      rintro rfl
      exact h List.mem_cons_self
    have hrest : key ∉ rest.map (·.1) := fun hmem => h (List.mem_cons_of_mem k hmem)
    rw [put, if_neg hne, ih hrest, List.cons_append]

/-- Setting an entry keeps each key there once. -/
theorem nodup_keys_put {es : List (String × α)} (h : (es.map (·.1)).Nodup) (key : String) (x : α) :
    ((put key x es).map (·.1)).Nodup := by
  rw [keys_put]
  split
  · exact h
  · next hkey =>
    refine List.nodup_append.mpr ⟨h, List.pairwise_singleton _ _, ?_⟩
    intro k hk other hother
    obtain rfl : other = key := List.mem_singleton.mp hother
    rintro rfl
    exact hkey hk

theorem mem_put {key : String} {x : α} {es : List (String × α)} {e : String × α}
    (he : e ∈ put key x es) : e = (key, x) ∨ e ∈ es := by
  induction es with
  | nil => exact .inl (List.mem_singleton.mp he)
  | cons f rest ih =>
    obtain ⟨k, y⟩ := f
    by_cases hk : k = key
    · subst hk
      simp only [put, if_true, List.mem_cons] at he
      rcases he with he | he
      · exact .inl he
      · exact .inr (List.mem_cons_of_mem _ he)
    · simp only [put, hk, if_false, List.mem_cons] at he
      rcases he with rfl | he
      · exact .inr List.mem_cons_self
      · rcases ih he with he | he
        · exact .inl he
        · exact .inr (List.mem_cons_of_mem _ he)

section Keys

variable {κ : Type} [BEq κ] [LawfulBEq κ]

theorem mem_of_lookup {key : κ} {x : α} {es : List (κ × α)} (h : es.lookup key = some x) :
    (key, x) ∈ es := by
  obtain ⟨before, after, hentries, -⟩ := List.lookup_eq_some_iff.mp h
  rw [hentries]
  exact List.mem_append_right _ List.mem_cons_self

/-- If each key is there once, then an entry is what is found under its key. -/
theorem lookup_of_mem {es : List (κ × α)} (h : (es.map (·.1)).Nodup) {key : κ} {x : α}
    (he : (key, x) ∈ es) : es.lookup key = some x := by
  induction es with
  | nil => exact absurd he List.not_mem_nil
  | cons f rest ih =>
    obtain ⟨k, y⟩ := f
    rw [List.map_cons, List.nodup_cons] at h
    rw [List.lookup_cons]
    rcases List.mem_cons.mp he with heq | hrest
    · obtain ⟨rfl, rfl⟩ := Prod.mk.inj heq
      simp
    · have hne : key ≠ k := by
        rintro rfl
        exact h.1 (List.mem_map.mpr ⟨(key, x), hrest, rfl⟩)
      simp [beq_eq_false_iff_ne.mpr hne, ih h.2 hrest]

theorem lookup_filter_of_pos (q : κ → Bool) {key : κ} (hq : q key = true) (es : List (κ × α)) :
    (es.filter fun e => q e.1).lookup key = es.lookup key := by
  induction es with
  | nil => rfl
  | cons e rest ih =>
    obtain ⟨k, y⟩ := e
    by_cases hk : q k = true
    · rw [List.filter_cons, if_pos hk, List.lookup_cons, List.lookup_cons, ih]
    · have hne : key ≠ k := fun heq => hk (heq ▸ hq)
      rw [List.filter_cons, if_neg hk, ih, List.lookup_cons, beq_eq_false_iff_ne.mpr hne]

end Keys

/-- Setting an entry to what it is changes nothing. -/
theorem put_of_lookup {key : String} {x : α} {es : List (String × α)} (h : es.lookup key = some x) :
    put key x es = es := by
  induction es with
  | nil => cases h
  | cons e rest ih =>
    obtain ⟨k, y⟩ := e
    rw [List.lookup_cons] at h
    by_cases hk : k = key
    · subst hk
      obtain rfl : y = x := by simpa using h
      rw [put, if_pos rfl]
    · have hrest : rest.lookup key = some x := by
        simpa [beq_eq_false_iff_ne.mpr (Ne.symm hk)] using h
      rw [put, if_neg hk, ih hrest]

/-- If each key is there once, then removing one removes its entry and no other. -/
theorem length_filter_ne {es : List (String × α)} (h : (es.map (·.1)).Nodup) (key : String) :
    (es.filter (·.1 ≠ key)).length + (if (es.lookup key).isSome then 1 else 0) = es.length := by
  induction es with
  | nil => rfl
  | cons e rest ih =>
    obtain ⟨k, y⟩ := e
    rw [List.map_cons, List.nodup_cons] at h
    rw [List.lookup_cons]
    by_cases hk : k = key
    · subst hk
      have hkept : rest.filter (·.1 ≠ k) = rest := by
        refine List.filter_eq_self.mpr fun e he => decide_eq_true ?_
        rintro rfl
        exact h.1 (List.mem_map.mpr ⟨e, he, rfl⟩)
      rw [List.filter_cons_of_neg (by simp), hkept]
      simp
    · rw [List.filter_cons_of_pos (by simpa using hk), beq_eq_false_iff_ne.mpr (Ne.symm hk)]
      have hrest := ih h.2
      simp only [List.length_cons]
      omega

end Emission.Entries
