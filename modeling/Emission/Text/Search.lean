/-!
# Searching, replacing and ordering

Left-to-right, non-overlapping replacement and containment on texts as lists of characters, and lists of texts
in ascending order of their code points.
-/

namespace Emission.Text

/-! ## Searching and replacing -/

/-- What is left of a text after a given beginning, if it has that beginning. -/
def dropPrefix? : List Char → List Char → Option (List Char)
  | [], cs => some cs
  | _ :: _, [] => none
  | p :: ps, c :: cs => if p = c then dropPrefix? ps cs else none

theorem dropPrefix?_eq_some {ps cs rest : List Char} :
    dropPrefix? ps cs = some rest ↔ cs = ps ++ rest := by
  induction ps generalizing cs with
  | nil => simp [dropPrefix?, eq_comm]
  | cons p ps ih =>
    cases cs with
    | nil => simp [dropPrefix?]
    | cons c cs =>
      by_cases h : p = c
      · subst h; simp [dropPrefix?, ih]
      · simp [dropPrefix?, h, Ne.symm h]

/-- `part` occurs in a text. -/
def contains (part : List Char) : List Char → Bool
  | [] => part.isEmpty
  | c :: rest => (dropPrefix? part (c :: rest)).isSome || contains part rest

/-- Replaces up to `count` occurrences of a non-empty `part`, skipping the next `skip` characters
as the remainder of an occurrence already replaced. -/
def replaceFrom (part new : List Char) : Nat → Nat → List Char → List Char
  | _, _, [] => []
  | count, skip + 1, _ :: rest => replaceFrom part new count skip rest
  | 0, 0, cs => cs
  | count + 1, 0, c :: rest =>
    if (dropPrefix? part (c :: rest)).isSome then
      new ++ replaceFrom part new count (part.length - 1) rest
    else c :: replaceFrom part new (count + 1) 0 rest

/-- `new` before each character and at the end, at most `count` times. -/
def intersperse (new : List Char) : Nat → List Char → List Char
  | 0, cs => cs
  | _ + 1, [] => new
  | count + 1, c :: rest => new ++ c :: intersperse new count rest

/-- Replaces `part` by `new`, left to right, at most `limit` times; the empty text occurs before
each character and at the end. -/
def replace (part new : String) (limit : Option Nat) (s : String) : String :=
  let cs := s.toList
  let count := limit.getD (cs.length + 1)
  .ofList <|
    if part.isEmpty then intersperse new.toList count cs
    else replaceFrom part.toList new.toList count 0 cs

/-! ## Ascending order -/

/-- The texts in ascending order, repetitions kept. -/
def sorted (xs : List String) : List String := xs.mergeSort fun s t => !decide (t < s)

/-- A list without items that repeat the one before. -/
def dropRepeats : List String → List String
  | [] => []
  | s :: rest =>
    match dropRepeats rest with
    | [] => [s]
    | t :: more => if s = t then t :: more else s :: t :: more

/-- The texts in ascending order, each once. -/
def sortedSet (xs : List String) : List String := dropRepeats (sorted xs)

theorem mem_sorted {s : String} {xs : List String} : s ∈ sorted xs ↔ s ∈ xs :=
  List.mem_mergeSort

theorem mem_dropRepeats {s : String} {xs : List String} : s ∈ dropRepeats xs ↔ s ∈ xs := by
  induction xs with
  | nil => simp [dropRepeats]
  | cons t rest ih =>
    rw [dropRepeats, List.mem_cons, ← ih]
    cases dropRepeats rest with
    | nil => simp
    | cons u more =>
      by_cases h : t = u
      · subst h; simp
      · simp [h]

theorem mem_sortedSet {s : String} {xs : List String} : s ∈ sortedSet xs ↔ s ∈ xs := by
  rw [sortedSet, mem_dropRepeats, mem_sorted]

end Emission.Text
