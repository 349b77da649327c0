import Emission.Entries
import Emission.Target
import Emission.Text.Search

/-!
# The cache of template groups

One group for each target, found under the key of the target. A group is built when it is first asked
for; what building came to is recorded by `settle`, and a failure records nothing. The counters tell how
often a group was there and how often it had to be built.
-/

namespace Emission.Template

open Emission.Target (Identity)

/-- Groups by the key of their target, in the order in which the keys came, each key once. An entry may
be there and hold nothing. -/
structure Cache (α : Type) where
  entries : List (String × Option α) := []
  hits : Nat := 0
  misses : Nat := 0
  deriving Inhabited, Repr, DecidableEq

namespace Cache

variable {α : Type}

/-- The group of a target. -/
def get (c : Cache α) (i : Identity) : Option α := (c.entries.lookup i.key).join

def contains (c : Cache α) (i : Identity) : Bool := (c.entries.lookup i.key).isSome

def size (c : Cache α) : Nat := c.entries.length

/-- The keys in ascending order. -/
def targets (c : Cache α) : List String := Text.sorted (c.entries.map (·.1))

def store (c : Cache α) (i : Identity) (group : Option α) : Cache α :=
  { c with entries := Entries.put i.key group c.entries }

/-- Removes the entry of a target and tells whether it held a group. -/
def invalidate (c : Cache α) (i : Identity) : Bool × Cache α :=
  ((c.get i).isSome, { c with entries := c.entries.filter (·.1 ≠ i.key) })

/-- Removes all entries; the counters stay. -/
def clear (c : Cache α) : Cache α := { c with entries := [] }

/-! ## Asking for a group -/

/-- The group of a target if it is there, and the cache with the request counted. -/
def request (c : Cache α) (i : Identity) : Option α × Cache α :=
  match c.get i with
  | some g => (some g, { c with hits := c.hits + 1 })
  | none => (none, { c with misses := c.misses + 1 })

/-- Records what building the group of a target came to. A failure leaves the cache as it is; nothing is
recorded like a group, but it is no answer. -/
def settle (c : Cache α) (i : Identity) (outcome : Except Fault (Option α)) :
    Except Fault α × Cache α :=
  match outcome with
  | .error e => (.error e, c)
  | .ok (some g) => (.ok g, c.store i (some g))
  | .ok none => (.error (.misuse (.noLength Value.none.kind)), c.store i none)

/-- What a request comes to: the answer, the cache after it and whether the group had to be built. -/
structure Obtained (α : Type) where
  answer : Except Fault α
  cache : Cache α
  built : Bool

/-- The group of a target, built on the first request. -/
def obtain (c : Cache α) (i : Identity) (build : Except Fault (Option α)) : Obtained α :=
  match c.request i with
  | (some g, c) => ⟨.ok g, c, false⟩
  | (none, c) =>
    let (answer, c) := c.settle i build
    ⟨answer, c, true⟩

/-! ## Things that may have no length -/

variable (length? : α → Except Fault Nat)

/-- A thing whose length was taken; nothing has none. -/
def measured : Option α → Except Fault α
  | some thing => (length? thing).map fun _ => thing
  | none => .error (.misuse (.noLength Value.none.kind))

/-- A request for a thing of any kind. It is kept before its length is taken. -/
def obtainAny (c : Cache α) (i : Identity) (build : Except Fault (Option α)) : Obtained α :=
  match c.request i with
  | (some thing, c) => ⟨.ok thing, c, false⟩
  | (none, c) =>
    match build with
    | .error e => ⟨.error e, c, true⟩
    | .ok thing => ⟨measured length? thing, c.store i thing, true⟩

end Cache

end Emission.Template
