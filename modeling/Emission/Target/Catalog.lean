import Emission.Entries
import Emission.Target.Php

/-!
# The catalog of targets

Targets by name, where letters in upper and lower case are not told apart.
-/

namespace Emission.Target

/-- The catalogued targets by key, in the order in which the keys came, each key once. A target stands
with the number of the object it is. -/
structure Catalog where
  entries : List (String × Nat × Target) := []

namespace Catalog

/-- The entry of a name. -/
def find? (c : Catalog) (name : String) : Option (Nat × Target) :=
  c.entries.lookup (Identity.keyOf name)

def isRegistered (c : Catalog) (name : String) : Bool := (c.find? name).isSome

/-- The declared names of the targets in ascending order. -/
def names (c : Catalog) : List String := Text.sorted (c.entries.map fun e => e.2.2.name)

/-- The target of a name. -/
def get (c : Catalog) (name : String) : Except Fault (Nat × Target) :=
  match c.find? name with
  | some e => .ok e
  | none => .error (.unknownTarget name c.names)

/-- Adds a target, unless its name is taken and may not be given to another one. -/
def register (c : Catalog) (object : Nat) (t : Target) (replace : Bool) : Bool × Catalog :=
  if c.isRegistered t.name && !replace then (false, c)
  else (true, { c with entries := Entries.put t.identity.key (object, t) c.entries })

/-- Removes the target of a name and tells whether there was one. -/
def unregister (c : Catalog) (name : String) : Bool × Catalog :=
  (c.isRegistered name,
    { c with entries := c.entries.filter (·.1 ≠ Identity.keyOf name) })

/-- What is told about each target, in ascending order of the names. -/
def describe (c : Catalog) : Except Fault (List Description) :=
  c.names.mapM fun name => (c.get name).map fun e => e.2.describe

end Catalog

end Emission.Target
