/-!
# Logs

What a list of events says that happened and was not undone afterwards. Main statement: `since_append_iff`,
what one more event does to that.
-/

namespace Emission

variable {α : Type} {happens undoes : α → Prop} {log : List α} {event : α}

/-- Something happened, and nothing undid it since. -/
def Since (happens undoes : α → Prop) (log : List α) : Prop :=
  ∃ before event after, log = before ++ event :: after ∧ happens event ∧ ∀ later ∈ after, ¬ undoes later

theorem not_since_nil : ¬ Since happens undoes [] := by
  rintro ⟨before, event, after, hlog, -, -⟩
  exact absurd hlog.symm (List.append_ne_nil_of_right_ne_nil before (List.cons_ne_nil event after))

theorem since_append_iff :
    Since happens undoes (log ++ [event]) ↔
      happens event ∨ (¬ undoes event ∧ Since happens undoes log) := by
  constructor
  · rintro ⟨before, first, after, hlog, hhappens, hafter⟩
    rcases List.eq_nil_or_concat after with rfl | ⟨after, last, rfl⟩
    · -- it happened in the last event
      obtain ⟨-, hlast⟩ := List.append_inj' hlog rfl
      obtain rfl : event = first := List.head_eq_of_cons_eq hlast
      exact .inl hhappens
    · rw [List.concat_eq_append, ← List.cons_append, ← List.append_assoc] at hlog
      obtain ⟨hbefore, hlast⟩ := List.append_inj' hlog rfl
      obtain rfl : event = last := List.head_eq_of_cons_eq hlast
      rw [List.concat_eq_append] at hafter
      refine .inr ⟨hafter event (List.mem_append_right _ List.mem_cons_self), before, first, after,
        hbefore, hhappens, ?_⟩
      intro later hlater
      exact hafter later (List.mem_append_left _ hlater)
  · rintro (hhappens | ⟨hundoes, before, first, after, rfl, hhappens, hafter⟩)
    · exact ⟨log, event, [], rfl, hhappens, fun later hlater => absurd hlater List.not_mem_nil⟩
    · refine ⟨before, first, after ++ [event], by simp, hhappens, ?_⟩
      intro later hlater
      rcases List.mem_append.mp hlater with hlater | hlater
      · exact hafter later hlater
      · obtain rfl : later = event := List.mem_singleton.mp hlater
        exact hundoes

end Emission
