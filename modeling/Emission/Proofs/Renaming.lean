import Emission.Target.Php
import Mathlib.Data.List.Nodup

/-!
# Renaming reserved words

What `rename` does to several identifiers at once. It puts one underscore behind a reserved word and looks
no further, so the new name may itself be reserved, or be another identifier of the list. Main statement:
`rename_nodup_and_free_iff`, which says exactly when neither happens.
`rename_class_merged_and_reserved` shows both.
-/

namespace Emission

namespace Vocabulary

theorem mem_words_ofWords {keywords internal : List String} {w : String} :
    w ∈ (ofWords keywords internal).words ↔ w ∈ keywords ++ internal := by
  rw [List.mem_append]
  exact mem_union

end Vocabulary

namespace Target

variable {t : Target} {keywords internal : List String}

/-- A text that is no reserved word collides with nothing. -/
theorem collision?_text_eq_none_iff (hv : t.vocabulary = .ofWords keywords internal) (s : String) :
    t.collision? (.plain (.text s)) = .ok none ↔ s ∉ keywords ++ internal := by
  rw [← Vocabulary.mem_words_ofWords, ← hv]
  by_cases h : s ∈ t.vocabulary.words <;>
    simp [collision?, Symbol.text, reserves, bind, Except.bind, pure, Except.pure, h]

theorem rename_of_mem (hv : t.vocabulary = .ofWords keywords internal) {w : String}
    (h : w ∈ keywords ++ internal) : t.rename w = w ++ "_" := by
  rw [← Vocabulary.mem_words_ofWords, ← hv] at h
  rw [rename, if_pos (by simpa using h)]

theorem rename_of_not_mem (hv : t.vocabulary = .ofWords keywords internal) {w : String}
    (h : w ∉ keywords ++ internal) : t.rename w = w := by
  rw [← Vocabulary.mem_words_ofWords, ← hv] at h
  rw [rename, if_neg (by simpa using h)]

/-- A new name is reserved if the identifier is, both without and with an underscore. -/
theorem rename_mem_iff (hv : t.vocabulary = .ofWords keywords internal) (w : String) :
    t.rename w ∈ keywords ++ internal ↔
      w ∈ keywords ++ internal ∧ w ++ "_" ∈ keywords ++ internal := by
  by_cases h : w ∈ keywords ++ internal
  · rw [rename_of_mem hv h]
    exact ⟨fun hw => ⟨h, hw⟩, fun hw => hw.2⟩
  · rw [rename_of_not_mem hv h]
    exact ⟨fun hw => absurd hw h, fun hw => absurd hw.1 h⟩

/-- A reserved word is renamed onto the same word with an underscore, if that one keeps its name. -/
def Merges (reserved : List String) (v w : String) : Prop :=
  v ∈ reserved ∧ w = v ++ "_" ∧ w ∉ reserved

/-- Two identifiers get one name only if they are the same or one is renamed onto the other. -/
theorem rename_eq_iff (hv : t.vocabulary = .ofWords keywords internal) (v w : String) :
    t.rename v = t.rename w ↔
      v = w ∨ Merges (keywords ++ internal) v w ∨ Merges (keywords ++ internal) w v := by
  -- two names meet only if one of them is reserved and the other is what it becomes
  by_cases h : v ∈ keywords ++ internal <;> by_cases h' : w ∈ keywords ++ internal
  · rw [rename_of_mem hv h, rename_of_mem hv h', String.append_left_inj]
    exact ⟨.inl, fun hm => hm.elim id fun hm => hm.elim (fun m => absurd h' m.2.2)
      fun m => absurd h m.2.2⟩
  · rw [rename_of_mem hv h, rename_of_not_mem hv h']
    constructor
    · intro heq
      exact .inr (.inl ⟨h, heq.symm, h'⟩)
    · rintro (rfl | m | m)
      · exact absurd h h'
      · exact m.2.1.symm
      · exact absurd m.1 h'
  · rw [rename_of_not_mem hv h, rename_of_mem hv h']
    constructor
    · intro heq
      exact .inr (.inr ⟨h', heq, h⟩)
    · rintro (rfl | m | m)
      · exact absurd h' h
      · exact absurd m.1 h
      · exact m.2.1
  · rw [rename_of_not_mem hv h, rename_of_not_mem hv h']
    exact ⟨.inl, fun hm => hm.elim id fun hm => hm.elim (fun m => absurd m.1 h)
      fun m => absurd m.1 h'⟩

/-- Different identifiers get different names exactly if none is renamed onto another one, and no name is
reserved exactly if no identifier is reserved both without and with an underscore. -/
theorem rename_nodup_and_free_iff (t : Target) (keywords internal : List String)
    (hv : t.vocabulary = .ofWords keywords internal) (ids : List String) (hids : ids.Nodup) :
    ((ids.map t.rename).Nodup ↔
      ∀ v ∈ ids, ∀ w ∈ ids, ¬ Merges (keywords ++ internal) v w) ∧
    ((∀ name ∈ ids.map t.rename, t.collision? (.plain (.text name)) = .ok none) ↔
      ∀ w ∈ ids, w ∈ keywords ++ internal → w ++ "_" ∉ keywords ++ internal) := by
  constructor
  · rw [List.nodup_map_iff_inj_on hids]
    constructor
    · -- if one is renamed onto the other, they are two: one is reserved and the other is not
      intro hinj v hmem w hmem' m
      have heq : v = w := hinj v hmem w hmem' ((rename_eq_iff hv v w).mpr (.inr (.inl m)))
      exact m.2.2 (heq ▸ m.1)
    · intro hsep v hmem w hmem' heq
      rcases (rename_eq_iff hv v w).mp heq with h | m | m
      · exact h
      · exact absurd m (hsep v hmem w hmem')
      · exact absurd m (hsep w hmem' v hmem)
  · simp only [List.forall_mem_map, collision?_text_eq_none_iff hv, rename_mem_iff hv, not_and]

theorem rename_nodup_and_free_php :
    Php.target.vocabulary = .ofWords Php.keywords Php.internal ∧
      ["class", "rule", "clazz"].Nodup ∧
      (["class", "rule", "clazz"].map Php.target.rename).Nodup ∧
      ∀ name ∈ ["class", "rule", "clazz"].map Php.target.rename,
        Php.target.collision? (.plain (.text name)) = .ok none := by
  have hids : ["class", "rule", "clazz"].Nodup := by decide
  obtain ⟨hnodup, hfree⟩ :=
    rename_nodup_and_free_iff Php.target Php.keywords Php.internal rfl _ hids
  exact ⟨rfl, hids, hnodup.mpr (by unfold Merges; decide), hfree.mpr (by decide)⟩

/-- The PHP target reserves `class` but not `class_`, and gives both one name. A target that reserves both
gives the first a reserved name. -/
theorem rename_class_merged_and_reserved :
    (["class", "class_"].Nodup ∧ ¬ (["class", "class_"].map Php.target.rename).Nodup) ∧
      let t : Target := { Php.target with vocabulary := .ofWords ["class", "class_"] [] }
      t.collision? (.plain (.text (t.rename "class"))) ≠ .ok none := by
  refine ⟨⟨by decide, ?_⟩, ?_⟩
  · have hc : Php.target.rename "class" = "class" ++ "_" := rename_of_mem rfl (by decide)
    have hc' : Php.target.rename "class_" = "class_" := rename_of_not_mem rfl (by decide)
    simp [hc, hc']
  · intro t
    rw [ne_eq, collision?_text_eq_none_iff (t := t) rfl, rename_mem_iff (t := t) rfl]
    decide

end Target

end Emission
