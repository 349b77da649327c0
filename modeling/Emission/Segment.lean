import Emission.Fault

/-!
# Segments

A serialized table cut into consecutive pieces of bounded size, so that each piece fits into one literal, and
what a target language can take, from which the size follows. Main statement: `flatten_chunks`, the pieces make
up the table.
-/

namespace Emission.Segment

/-- Consecutive pieces of `size` entries, the last one perhaps shorter; an empty table has none. -/
def chunks {α : Type} (size : Nat) (entries : List α) : List (List α) :=
  if _h : size = 0 ∨ entries.length = 0 then []
  else entries.take size :: chunks size (entries.drop size)
termination_by entries.length
decreasing_by simp only [List.length_drop]; omega

/-- The pieces of a table, if the size is positive. -/
def split {α : Type} (entries : List α) (size : Int) : Except Fault (List (List α)) :=
  if size < 1 then .error (.segmentSizeNotPositive size) else .ok (chunks size.toNat entries)

/-- How many pieces a table of so many entries has. -/
def count (entries size : Int) : Except Fault Int :=
  if size < 1 then .error (.segmentSizeNotPositive size)
  else if entries < 0 then .error (.negativeEntryCount entries)
  else .ok (-((-entries).fdiv size))

theorem flatten_chunks {α : Type} {size : Nat} (h : 0 < size) (entries : List α) :
    (chunks size entries).flatten = entries := by
  fun_induction chunks size entries with
  | case1 entries hc =>
    rcases hc with hc | hc
    · omega
    · simpa using (List.length_eq_zero_iff.mp hc).symm
  | case2 entries hc ih => simp [ih, List.take_append_drop]

end Emission.Segment

/-! ## What a target language can take -/

namespace Emission.Target

/-- The fixed capabilities of a target language. -/
structure Limits where
  overloading : Bool
  /-- The longest literal, in bytes. -/
  literalLimit : Nat
  /-- How many of those bytes one table entry may need. -/
  entryWidth : Nat
  width_pos : 0 < entryWidth
  width_le : entryWidth ≤ literalLimit

namespace Limits

def make (overloading : Bool) (limit width : Int) : Except Fault Limits :=
  if hl : limit < 1 then .error .literalLimitNotPositive
  else if hw : width < 1 then .error .encodingWidthNotPositive
  else if hwl : width > limit then .error .encodingWidthBeyondLimit
  else .ok ⟨overloading, limit.toNat, width.toNat, by omega, by omega⟩

/-- How many entries fit into one literal. -/
def segmentSize (l : Limits) : Nat := l.literalLimit / l.entryWidth

theorem segmentSize_pos (l : Limits) : 0 < l.segmentSize :=
  Nat.div_pos l.width_le l.width_pos

/-- A table cut into pieces that each fit into one literal. -/
def segments {α : Type} (l : Limits) (entries : List α) : Except Fault (List (List α)) :=
  Segment.split entries l.segmentSize

theorem segments_eq {α : Type} (l : Limits) (entries : List α) :
    l.segments entries = .ok (Segment.chunks l.segmentSize entries) := by
  have := l.segmentSize_pos
  have h : ¬ ((l.segmentSize : Int) < 1) := by omega
  simp [segments, Segment.split, h]

end Limits

end Emission.Target
