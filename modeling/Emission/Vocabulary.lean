import Emission.Text.Search

/-!
# Reserved words

The words a target reserves: the keywords of its language and the names that generated code uses for
itself. The set of both is built when a question first needs it and kept from then on.
-/

namespace Emission

/-- The reserved words of a target. -/
structure Vocabulary where
  keywords : List String
  internal : List String
  /-- The set of all words in ascending order, once it is built. -/
  built : Option (List String) := none
  deriving DecidableEq, Repr, Inhabited

namespace Vocabulary

/-- All words, each once, in ascending order. -/
def union (v : Vocabulary) : List String := Text.sortedSet (v.keywords ++ v.internal)

/-- The set, and whether it was built now: a set that is kept is taken as it is. -/
def obtain (v : Vocabulary) : List String × Bool :=
  match v.built with
  | some ws => (ws, false)
  | none => (v.union, true)

def words (v : Vocabulary) : List String := v.obtain.1

def populated (v : Vocabulary) : Bool := v.built.isSome

/-- The vocabulary once its set is built. -/
def populate (v : Vocabulary) : Vocabulary := { v with built := some v.words }

/-- A question about a vocabulary. -/
inductive Query
  | contains (word : String)
  | size
  | words
  /-- Is the set that one gets the set that is kept? -/
  | keptSet
  | populated
  | describe
  | keywords
  | internal
  deriving DecidableEq, Repr

inductive Answer
  | truth (b : Bool)
  | number (n : Nat)
  | words (ws : List String)
  | text (s : String)
  deriving DecidableEq, Repr

/-- Does a question need the set? -/
def Query.needsSet : Query → Bool
  | contains _ | size | words | keptSet => true
  | populated | describe | keywords | internal => false

/-- What a vocabulary shows of itself. -/
def describe (v : Vocabulary) : String :=
  "ReservedWordSet(" ++
    (match v.built with
      | some ws => toString ws.length ++ " words"
      | none => "unpopulated") ++ ")"

/-- The answer of a vocabulary in its present state. -/
def answer (v : Vocabulary) : Query → Answer
  | .contains word => .truth (v.words.contains word)
  | .size => .number v.words.length
  | .words => .words v.words
  | .keptSet => .truth (v.built == some v.words)
  | .populated => .truth v.populated
  | .describe => .text v.describe
  | .keywords => .words v.keywords
  | .internal => .words v.internal

/-- Answers a question; the set is built first if the question needs it. -/
def ask (v : Vocabulary) (q : Query) : Answer × Vocabulary :=
  let v := if q.needsSet then v.populate else v
  (v.answer q, v)

/-- The vocabulary of two lists of words. -/
def ofWords (keywords internal : List String) : Vocabulary := { keywords, internal }

theorem mem_union {v : Vocabulary} {w : String} :
    w ∈ v.union ↔ w ∈ v.keywords ∨ w ∈ v.internal := by
  simp [union, Text.mem_sortedSet]

end Vocabulary

end Emission
