import Emission.Store

/-!
# What is where in a store

What adding and replacing an object leaves at each place.
-/

namespace Emission

namespace Store

variable {α : Type}

theorem get?_eq_none_iff {s : Store α} {i : Nat} : s.get? i = none ↔ s.next ≤ i :=
  List.getElem?_eq_none_iff

theorem lt_next_of_get? {s : Store α} {i : Nat} {x : α} (h : s.get? i = some x) : i < s.next :=
  (List.getElem?_eq_some_iff.mp h).1

theorem exists_get? {s : Store α} {i : Nat} (h : i < s.next) : ∃ x, s.get? i = some x :=
  ⟨s.items[i], List.getElem?_eq_getElem h⟩

theorem next_add (s : Store α) (x : α) : (s.add x).2.next = s.next + 1 :=
  List.length_append

theorem next_set (s : Store α) (i : Nat) (x : α) : (s.set i x).next = s.next :=
  List.length_set

theorem get?_add (s : Store α) (x : α) (i : Nat) :
    (s.add x).2.get? i = if i = s.next then some x else s.get? i := by
  rcases Nat.lt_trichotomy i s.next with hlt | rfl | hgt
  · rw [if_neg (Nat.ne_of_lt hlt), get?_add_of_lt s x hlt]
  · rw [if_pos rfl]
    exact get?_add_self s x
  · rw [if_neg (Nat.ne_of_gt hgt), get?_eq_none_iff.mpr (Nat.le_of_lt hgt), get?_eq_none_iff, next_add]
    exact hgt

theorem get?_set (s : Store α) (i j : Nat) (x : α) :
    (s.set i x).get? j = if i = j then (s.get? j).map fun _ => x else s.get? j := by
  by_cases hij : i = j
  · subst hij
    rw [if_pos rfl]
    rcases Nat.lt_or_ge i s.next with hlt | hge
    · obtain ⟨y, hy⟩ := exists_get? hlt
      rw [hy]
      exact List.getElem?_set_self hlt
    · rw [get?_eq_none_iff.mpr hge, Option.map_none, get?_eq_none_iff, next_set]
      exact hge
  · rw [if_neg hij, get?_set_of_ne s x hij]

/-- An object that is there after another was added is that one or was there before. -/
theorem get?_add_eq_some {s : Store α} {x y : α} {i : Nat} (h : (s.add x).2.get? i = some y) :
    s.get? i = some y ∨ i = s.next ∧ y = x := by
  rw [get?_add] at h
  split at h
  · next hi => exact .inr ⟨hi, (Option.some.inj h).symm⟩
  · exact .inl h

theorem get?_set_self {s : Store α} {i : Nat} {x : α} (h : s.get? i = some x) (y : α) :
    (s.set i y).get? i = some y := by
  rw [get?_set, if_pos rfl, h, Option.map_some]

/-- An object that is there after another was put somewhere is that one or was there before. -/
theorem get?_set_eq_some {s : Store α} {x y : α} {i j : Nat} (h : (s.set i x).get? j = some y) :
    i = j ∧ y = x ∨ i ≠ j ∧ s.get? j = some y := by
  rw [get?_set] at h
  split at h
  · next hij =>
    obtain ⟨_, -, rfl⟩ := Option.map_eq_some_iff.mp h
    exact .inl ⟨hij, rfl⟩
  · next hij => exact .inr ⟨hij, h⟩

theorem set_set (s : Store α) (i : Nat) (x y : α) : (s.set i x).set i y = s.set i y :=
  congrArg Store.mk (List.set_set x)

theorem set_of_get? {s : Store α} {i : Nat} {x : α} (h : s.get? i = some x) : s.set i x = s := by
  obtain ⟨hlt, rfl⟩ := List.getElem?_eq_some_iff.mp h
  exact congrArg Store.mk (List.set_getElem_self hlt)

end Store

end Emission
