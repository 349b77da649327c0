/-!
# Stores of objects

Objects that are told apart by where they were put. Nothing is ever removed, so a place that was given
once stays good.
-/

namespace Emission

/-- Objects in the order in which they were made. -/
structure Store (α : Type) where
  items : List α := []
  deriving Repr

namespace Store

variable {α : Type}

/-- The place of the next object. -/
def next (s : Store α) : Nat := s.items.length

def get? (s : Store α) (i : Nat) : Option α := s.items[i]?

/-- Adds an object and tells its place. -/
def add (s : Store α) (x : α) : Nat × Store α := (s.next, ⟨s.items ++ [x]⟩)

/-- Replaces the object at a place, if there is one. -/
def set (s : Store α) (i : Nat) (x : α) : Store α := ⟨s.items.set i x⟩

theorem get?_add_self (s : Store α) (x : α) : (s.add x).2.get? (s.add x).1 = some x := by
  simp [add, get?, next]

theorem get?_add_of_lt (s : Store α) (x : α) {i : Nat} (h : i < s.next) :
    (s.add x).2.get? i = s.get? i := by
  simp only [add, get?]
  exact List.getElem?_append_left h

theorem get?_set_of_ne (s : Store α) (x : α) {i j : Nat} (h : i ≠ j) :
    (s.set i x).get? j = s.get? j := by
  simp [set, get?, List.getElem?_set_ne h]

end Store

end Emission
