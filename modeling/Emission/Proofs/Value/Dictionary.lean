import Emission.Value.Equal

/-!
# Texts as keys

What a dictionary holds under a text, whatever other keys it has: a text is the same key as a text or a markup of its
characters, and as nothing else. Main statements: `holds_iff`, a dictionary holds under a text what is found there;
`findText?_updated`, a dictionary that is updated with another one holds what the other one does, or else what it held
before.
-/

namespace Emission.Value

variable {k v : Value} {s : String} {es : List (Value × Value)}

/-! ## Keys that are texts -/

theorem same_of_text?_left (hk : k.text? = some s) (w : Value) : same k w = true ↔ w.text? = some s := by
  cases k with
  | text t =>
    obtain rfl : t = s := Option.some.inj hk
    rw [same, beq_iff_eq]
  | markup t =>
    obtain rfl : t = s := Option.some.inj hk
    rw [same, beq_iff_eq]
  | _ => cases hk

theorem same_of_text?_right {w : Value} (hw : w.text? = some s) (k : Value) :
    same k w = true ↔ k.text? = some s := by
  cases hk : k.text? with
  | some t => rw [same_of_text?_left hk, hw, eq_comm]
  | none =>
    -- no value but a text or markup is the same as one
    have hother : same k w = false := by
      cases w with
      | text t => cases k <;> first | rfl | cases hk
      | markup t => cases k <;> first | rfl | cases hk
      | _ => cases hw
    simp [hother]

theorem same_text_iff (k : Value) (s : String) : same k (.text s) = true ↔ k.text? = some s :=
  same_of_text?_right rfl k

/-- Keys that are the same are the same text, if one of them is a text. -/
theorem text?_eq_some_iff_of_same {k' : Value} (h : same k' k = true) (s : String) :
    k'.text? = some s ↔ k.text? = some s :=
  ⟨fun hk' => (same_of_text?_left hk' k).mp h, fun hk => (same_of_text?_right hk k').mp h⟩

/-! ## Finding and setting -/

theorem findText?_cons (k v : Value) (s : String) (es : List (Value × Value)) :
    findText? s ((k, v) :: es) = if k.text? = some s then some v else findText? s es := by
  rw [findText?, find?]
  simp only [same_text_iff]
  rfl

theorem findText?_eq_none (h : ∀ e ∈ es, e.1.text? ≠ some s) : findText? s es = Option.none := by
  induction es with
  | nil => rfl
  | cons e rest ih =>
    rw [findText?_cons, if_neg (h e List.mem_cons_self)]
    exact ih fun f hf => h f (List.mem_cons_of_mem e hf)

/-- Setting a key changes what is found under its text, if it is one, and nothing else. -/
theorem findText?_put (k v : Value) (s : String) (es : List (Value × Value)) :
    findText? s (put k v es) = if k.text? = some s then some v else findText? s es := by
  induction es with
  | nil => exact findText?_cons k v s []
  | cons e rest ih =>
    obtain ⟨k', w⟩ := e
    rw [put]
    by_cases hsame : same k' k = true
    · rw [if_pos hsame, findText?_cons, findText?_cons]
      simp only [text?_eq_some_iff_of_same hsame]
      split <;> rfl
    · rw [if_neg hsame, findText?_cons, findText?_cons, ih]
      by_cases hk : k.text? = some s
      · have hk' : ¬ k'.text? = some s := fun hk' => hsame ((same_of_text?_right hk k').mpr hk')
        rw [if_pos hk, if_neg hk', if_pos hk]
      · rw [if_neg hk, if_neg hk]

/-! ## Dictionaries -/

/-- No two of these keys are the same. -/
def Distinct (keys : List Value) : Prop := keys.Pairwise fun k l => same k l = false

instance : DecidablePred Distinct := fun keys => inferInstanceAs (Decidable (keys.Pairwise _))

/-- The entries of a dictionary, each under a key of its own. -/
structure Dictionary where
  entries : List (Value × Value)
  distinct : Distinct (entries.map (·.1))

namespace Dictionary

variable {d d' : Dictionary}

/-- A dictionary has this value under a text. -/
def Holds (d : Dictionary) (s : String) (v : Value) : Prop := ∃ k, (k, v) ∈ d.entries ∧ same k (.text s) = true

/-- A dictionary has something under a text. -/
def Mentions (d : Dictionary) (s : String) : Prop := ∃ v, d.Holds s v

/-- Behind an entry under a text there is no other one under it. -/
theorem findText?_rest {rest : List (Value × Value)} (h : Distinct (((k, v) :: rest).map (·.1)))
    (hk : k.text? = some s) : findText? s rest = Option.none := by
  rw [List.map_cons, Distinct, List.pairwise_cons] at h
  refine findText?_eq_none fun e he htext => ?_
  have hsame : same k e.1 = true := (same_of_text?_left hk e.1).mpr htext
  rw [h.1 e.1 (List.mem_map_of_mem he)] at hsame
  cases hsame

theorem holds_iff : d.Holds s v ↔ findText? s d.entries = some v := by
  obtain ⟨es, hdistinct⟩ := d
  simp only [Holds, same_text_iff]
  induction es with
  | nil => simp [findText?, find?]
  | cons e rest ih =>
    obtain ⟨k, w⟩ := e
    have hrest := ih (List.pairwise_cons.mp hdistinct).2
    rw [findText?_cons]
    by_cases hk : k.text? = some s
    · -- the text is not a key again, since keys are distinct
      have hnone := findText?_rest hdistinct hk
      rw [hnone] at hrest
      simp only [if_pos hk, List.mem_cons, Prod.mk.injEq, Option.some.injEq]
      constructor
      · rintro ⟨k', ⟨-, rfl⟩ | hmem, hk'⟩
        · rfl
        · cases hrest.mp ⟨k', hmem, hk'⟩
      · rintro rfl
        exact ⟨k, .inl ⟨rfl, rfl⟩, hk⟩
    · rw [if_neg hk, ← hrest]
      simp only [List.mem_cons, Prod.mk.injEq]
      constructor
      · rintro ⟨k', ⟨rfl, -⟩ | hmem, hk'⟩
        · exact absurd hk' hk
        · exact ⟨k', hmem, hk'⟩
      · rintro ⟨k', hmem, hk'⟩
        exact ⟨k', .inr hmem, hk'⟩

theorem not_mentions_iff : ¬ d.Mentions s ↔ findText? s d.entries = Option.none := by
  simp only [Mentions, holds_iff, not_exists, Option.eq_none_iff_forall_ne_some]

/-! ## Updating -/

/-- The keys stay as they are, or a new one comes last. -/
theorem keys_put (k v : Value) (es : List (Value × Value)) :
    (put k v es).map (·.1) = es.map (·.1) ∨
      (∀ l ∈ es.map (·.1), same l k = false) ∧ (put k v es).map (·.1) = es.map (·.1) ++ [k] := by
  induction es with
  | nil => exact .inr ⟨List.forall_mem_nil _, rfl⟩
  | cons e rest ih =>
    obtain ⟨k', w⟩ := e
    rw [put]
    by_cases hsame : same k' k = true
    · exact .inl (by rw [if_pos hsame, List.map_cons, List.map_cons])
    · rw [if_neg hsame, List.map_cons, List.map_cons, List.forall_mem_cons]
      rcases ih with hkept | ⟨hother, hlast⟩
      · exact .inl (by rw [hkept])
      · exact .inr ⟨⟨Bool.eq_false_iff.mpr hsame, hother⟩, by rw [hlast, List.cons_append]⟩

theorem distinct_put (h : Distinct (es.map (·.1))) (k v : Value) : Distinct ((put k v es).map (·.1)) := by
  rcases keys_put k v es with hkept | ⟨hother, hlast⟩
  · exact hkept ▸ h
  · rw [hlast]
    refine List.pairwise_append.mpr ⟨h, List.pairwise_singleton _ k, fun l hl k' hk' => ?_⟩
    obtain rfl := List.mem_singleton.mp hk'
    exact hother l hl

theorem distinct_foldl_put (h : Distinct (es.map (·.1))) (fs : List (Value × Value)) :
    Distinct ((fs.foldl (fun es e => put e.1 e.2 es) es).map (·.1)) := by
  induction fs generalizing es with
  | nil => exact h
  | cons e rest ih => exact ih (distinct_put h e.1 e.2)

/-- A dictionary with the entries of another one in place of its own or behind them. -/
def updated (d d' : Dictionary) : Dictionary where
  entries := d'.entries.foldl (fun es e => put e.1 e.2 es) d.entries
  distinct := distinct_foldl_put d.distinct d'.entries

theorem findText?_updated (d d' : Dictionary) (s : String) :
    findText? s (d.updated d').entries = (findText? s d'.entries).or (findText? s d.entries) := by
  obtain ⟨fs, hdistinct⟩ := d'
  show findText? s (fs.foldl (fun es e => put e.1 e.2 es) d.entries) = _
  -- each entry makes another list, so the induction is for every list
  generalize d.entries = es
  induction fs generalizing es with
  | nil => rfl
  | cons e rest ih =>
    obtain ⟨k, v⟩ := e
    rw [List.foldl_cons, ih (List.pairwise_cons.mp hdistinct).2, findText?_put, findText?_cons]
    by_cases hk : k.text? = some s
    · rw [if_pos hk, if_pos hk, findText?_rest hdistinct hk]
      rfl
    · rw [if_neg hk, if_neg hk]

end Dictionary

end Emission.Value
