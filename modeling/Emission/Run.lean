import Emission.Options

/-!
# Generation runs

What one run generates: the grammar, the options, further notes and the cache its templates are kept in.
A run is made at once or from a draft that is filled in piece by piece.
-/

namespace Emission

/-- A generation run. Its cache is named by its place in the store of caches. -/
structure Run where
  grammar : String
  options : Options
  metadata : List (Value × Value)
  cache : Nat
  deriving Inhabited

namespace Run

/-- The target that the run is for. -/
def target (r : Run) : Value := r.options.defaultTarget

/-- The same run, whatever cache it uses. -/
def same (r q : Run) : Bool :=
  r.grammar == q.grammar && r.options.same q.options &&
    Value.same (.dict r.metadata) (.dict q.metadata)

/-- A run with the given cache; without options it has the default ones. -/
def make (grammar : String) (options : Option Options) (metadata : List (Value × Value)) (cache : Nat) :
    Except Fault Run := do
  if grammar = "" then throw Fault.emptyGrammar
  let options := options.getD {}
  options.validate
  return { grammar, options, metadata, cache }

/-- What is known of a run that is not made yet. -/
structure Draft where
  grammar : Option String := none
  options : Option Options := none
  metadata : List (Value × Value) := []
  cache : Option Nat := none
  deriving Inhabited

namespace Draft

def withGrammar (d : Draft) (grammar : Option String) : Draft := { d with grammar }

def withOptions (d : Draft) (options : Option Options) : Draft := { d with options }

/-- Adds a note; one under the same key is replaced. -/
def withNote (d : Draft) (key value : Value) : Draft :=
  { d with metadata := Value.put key value d.metadata }

/-- Shares the cache of another run. -/
def withCache (d : Draft) (cache : Nat) : Draft := { d with cache := some cache }

/-- The run that a draft describes; `fresh` is the cache of a draft that shares none. -/
def build (d : Draft) (fresh : Nat) : Except Fault Run := do
  let grammar := d.grammar.getD ""
  if grammar = "" then throw Fault.grammarRequired
  let options := d.options.getD {}
  options.validate
  return { grammar, options, metadata := d.metadata, cache := d.cache.getD fresh }

end Draft

end Run

end Emission
