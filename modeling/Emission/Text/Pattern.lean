/-!
# Patterns

Regular patterns over characters and a matcher that takes a text one character at a time.
-/

namespace Emission.Text

/-- A set of texts. -/
inductive Pattern
  | never
  | empty
  | char (ok : Char → Bool)
  | follow (p q : Pattern)
  | either (p q : Pattern)
  | repeated (p : Pattern)

namespace Pattern

/-- The empty text is in the set. -/
def acceptsEmpty : Pattern → Bool
  | never => false
  | empty => true
  | char _ => false
  | follow p q => p.acceptsEmpty && q.acceptsEmpty
  | either p q => p.acceptsEmpty || q.acceptsEmpty
  | repeated _ => true

/-- `follow`, shortened where one side decides. -/
def followed : Pattern → Pattern → Pattern
  | never, _ => never
  | _, never => never
  | empty, q => q
  | p, q => follow p q

/-- `either`, shortened where one side decides. -/
def alternative : Pattern → Pattern → Pattern
  | never, q => q
  | p, never => p
  | p, q => either p q

/-- What may follow a character. -/
def after (c : Char) : Pattern → Pattern
  | never => never
  | empty => never
  | char ok => if ok c then empty else never
  | follow p q =>
    if p.acceptsEmpty then alternative (followed (p.after c) q) (q.after c)
    else followed (p.after c) q
  | either p q => alternative (p.after c) (q.after c)
  | repeated p => followed (p.after c) (repeated p)

/-- A text is in the set. -/
def accepts : Pattern → List Char → Bool
  | p, [] => p.acceptsEmpty
  | p, c :: rest => (p.after c).accepts rest

/-! ## Building patterns -/

/-- One given character. -/
def one (c : Char) : Pattern := char (· == c)

/-- One character of a text. -/
def oneOf (s : String) : Pattern := char s.toList.contains

def digit : Pattern := char Char.isDigit

/-- Patterns one after the other. -/
def sequence (ps : List Pattern) : Pattern := ps.foldr followed empty

/-- Any of several patterns. -/
def anyOf (ps : List Pattern) : Pattern := ps.foldr alternative never

/-- A given text. -/
def exactly (s : String) : Pattern := sequence (s.toList.map one)

/-- Any of several given texts. -/
def words (ws : List String) : Pattern := anyOf (ws.map exactly)

def optional (p : Pattern) : Pattern := either p empty

/-- At least once. -/
def some (p : Pattern) : Pattern := follow p (repeated p)

end Pattern

end Emission.Text
