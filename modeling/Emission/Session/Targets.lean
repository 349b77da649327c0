import Emission.Session

/-!
# Targets in a session

Registering and finding targets, and what is asked of one.
-/

namespace Emission.Session

/-- Registers a target, unless its name is taken. -/
def register (place : Nat) (replace : Bool) : Action Bool := do
  let t ← target place
  let s ← get
  let (added, catalog) := s.catalog.register place t replace
  set { s with catalog }
  if added then report .catalog (.registered (.text t.name) (.text t.version))
  else record .catalog .info ("Target '" ++ t.name ++ "' already registered")
  return added

def unregister (name : String) : Action Bool :=
  modifyGet fun s => let (found, catalog) := s.catalog.unregister name; (found, { s with catalog })

/-- The place of the target registered under a name. -/
def findTarget (name : String) : Action Nat := do
  return (← MonadExcept.ofExcept ((← get).catalog.get name)).1

/-- Registers the targets that come with the library. -/
def registerBuiltin : Action Unit := do
  if !(← get).catalog.isRegistered Target.Php.target.name then
    let place ← addTarget Target.Php.target
    let _ ← register place false

/-- Is the text of a symbol a reserved word? If it is, that is reported. -/
def collides (place : Nat) (symbol : Target.Symbol) : Action Bool := do
  let t ← target place
  match ← MonadExcept.ofExcept (t.collision? symbol) with
  | some s =>
    report .targets (.collision (.text t.name) s)
    return true
  | none => return false

/-- An identifier that is no reserved word: the given one, or one with an underscore behind it. -/
def rename (place : Nat) (identifier : String) : Action String := do
  let t ← target place
  let _ ← collides place (.plain (.text identifier))
  return t.rename identifier

end Emission.Session
