import Emission.Proofs.Log
import Emission.Proofs.Text.Order
import Emission.Template.Cache

/-!
# The history of a cache

Calls to a cache, made one after the other from the empty cache, and the log of what they answered. What is in
the cache follows from the log: a group is held under a key if some request for that key was granted it and
nothing removed the key since. Main statement: `obtain_built_iff_and_counters`, which says so of the next
request, and that the counters and the list of targets agree with the log and with each other.
-/

namespace Emission.Template.Cache

open Emission.Target (Identity)

variable {α : Type}

/-! ## Calls -/

/-- A call to a cache. Building a group fails or gives one. -/
inductive Call (α : Type)
  | obtain (i : Identity) (build : Except Fault α)
  | get (i : Identity)
  | contains (i : Identity)
  | invalidate (i : Identity)
  | clear

/-- What a call answers; of a request it is known whether the group had to be built. -/
inductive Answer (α : Type)
  | granted (answer : Except Fault α) (built : Bool)
  | found (group : Option α)
  | truth (b : Bool)
  | done

/-- A call answered by a cache, and the cache after it. -/
def Call.run (c : Cache α) : Call α → Answer α × Cache α
  | obtain i build =>
    let o := c.obtain i (build.map some)
    (.granted o.answer o.built, o.cache)
  | get i => (.found (c.get i), c)
  | contains i => (.truth (c.contains i), c)
  | invalidate i => (.truth (c.invalidate i).1, (c.invalidate i).2)
  | clear => (.done, c.clear)

/-- A call and what was answered. -/
structure Event (α : Type) where
  call : Call α
  answer : Answer α

/-- A cache and the log of the calls that led to it, the latest last. -/
structure History (α : Type) where
  log : List (Event α) := []
  cache : Cache α := {}

namespace History

def step (h : History α) (call : Call α) : History α :=
  ⟨h.log ++ [⟨call, (call.run h.cache).1⟩], (call.run h.cache).2⟩

/-- What calls lead to from the empty cache. -/
def of (calls : List (Call α)) : History α := calls.foldl step {}

end History

/-! ## What a log says -/

namespace Event

/-- A request for this key that was granted the group. -/
def Grants (key : String) (g : α) : Event α → Prop
  | ⟨.obtain i _, .granted (.ok h) _⟩ => i.key = key ∧ h = g
  | _ => False

/-- A call that removes the key from the cache. -/
def Removes (key : String) : Event α → Prop
  | ⟨.invalidate i, _⟩ => i.key = key
  | ⟨.clear, _⟩ => True
  | _ => False

/-- A request for which the group had to be built. -/
def built : Event α → Bool
  | ⟨_, .granted _ built⟩ => built
  | _ => false

def isRequest : Event α → Bool
  | ⟨.obtain .., _⟩ => true
  | _ => false

end Event

/-- Some request for the key was granted the group, and no call removed the key since. -/
def Held (log : List (Event α)) (key : String) (g : α) : Prop :=
  ∃ before event after, log = before ++ event :: after ∧ event.Grants key g ∧
    ∀ later ∈ after, ¬ later.Removes key

theorem not_held_nil (key : String) (g : α) : ¬ Held ([] : List (Event α)) key g := not_since_nil

/-- What one more call does to what is held. -/
theorem held_append_iff {log : List (Event α)} {event : Event α} {key : String} {g : α} :
    Held (log ++ [event]) key g ↔
      event.Grants key g ∨ (¬ event.Removes key ∧ Held log key g) :=
  since_append_iff

/-! ## What a call does to the cache -/

/-- The group under a key. -/
def held? (c : Cache α) (key : String) : Option α := (c.entries.lookup key).join

theorem get_eq_held? (c : Cache α) (i : Identity) : c.get i = c.held? i.key := rfl

theorem obtain_of_get_some {c : Cache α} {i : Identity} {g : α} (h : c.get i = some g)
    (build : Except Fault (Option α)) :
    c.obtain i build = ⟨.ok g, { c with hits := c.hits + 1 }, false⟩ := by
  simp only [Cache.obtain, request, h]

theorem obtain_of_get_none {c : Cache α} {i : Identity} (h : c.get i = none)
    (build : Except Fault (Option α)) :
    c.obtain i build =
      ⟨({ c with misses := c.misses + 1 }.settle i build).1,
        ({ c with misses := c.misses + 1 }.settle i build).2, true⟩ := by
  simp only [Cache.obtain, request, h]

theorem lookup_store (c : Cache α) (i : Identity) (g : Option α) (key : String) :
    (c.store i g).entries.lookup key = if key = i.key then some g else c.entries.lookup key := by
  rw [store, Entries.lookup_put]

theorem lookup_invalidate (c : Cache α) (i : Identity) (key : String) :
    (c.invalidate i).2.entries.lookup key = if key = i.key then none else c.entries.lookup key := by
  rw [invalidate, Entries.lookup_filter_ne]

theorem held?_store (c : Cache α) (i : Identity) (g : α) (key : String) :
    (c.store i (some g)).held? key = if key = i.key then some g else c.held? key := by
  rw [held?, lookup_store]
  split <;> rfl

theorem held?_invalidate (c : Cache α) (i : Identity) (key : String) :
    (c.invalidate i).2.held? key = if key = i.key then none else c.held? key := by
  rw [held?, lookup_invalidate]
  split <;> rfl

theorem nodup_keys_store {c : Cache α} (h : (c.entries.map (·.1)).Nodup) (i : Identity) (g : Option α) :
    ((c.store i g).entries.map (·.1)).Nodup := by
  exact Entries.nodup_keys_put h i.key g

theorem nodup_keys_invalidate {c : Cache α} (h : (c.entries.map (·.1)).Nodup) (i : Identity) :
    ((c.invalidate i).2.entries.map (·.1)).Nodup :=
  (List.filter_sublist.map _).nodup h

/-- Each key once, and a group under each. -/
structure Filled (c : Cache α) : Prop where
  nodup : (c.entries.map (·.1)).Nodup
  isSome : ∀ e ∈ c.entries, e.2.isSome = true

namespace Filled

variable {c : Cache α}

theorem store (hc : c.Filled) (i : Identity) (g : α) : (c.store i (some g)).Filled where
  nodup := nodup_keys_store hc.nodup i (some g)
  isSome := by
    intro e he
    rcases Entries.mem_put he with rfl | hold
    · rfl
    · exact hc.isSome e hold

theorem invalidate (hc : c.Filled) (i : Identity) : (c.invalidate i).2.Filled where
  nodup := nodup_keys_invalidate hc.nodup i
  isSome := fun e he => hc.isSome e (List.mem_filter.mp he).1

theorem clear (c : Cache α) : c.clear.Filled where
  nodup := List.nodup_nil
  isSome := fun _ he => absurd he List.not_mem_nil

/-- A key is there exactly if a group is held under it. -/
theorem isSome_lookup (hc : c.Filled) (key : String) :
    (c.entries.lookup key).isSome = (c.held? key).isSome := by
  rw [held?]
  cases hlookup : c.entries.lookup key with
  | none => rfl
  | some entry =>
    have hentry : entry.isSome = true := hc.isSome _ (Entries.mem_of_lookup hlookup)
    rw [Option.isSome_some, Option.join_some, hentry]

end Filled

/-! ## What every history keeps -/

/-- What links a cache to the log of the calls that led to it. -/
structure Balanced (h : History α) : Prop where
  filled : h.cache.Filled
  held : ∀ key g, h.cache.held? key = some g ↔ Held h.log key g
  misses : h.cache.misses = h.log.countP Event.built
  requests : h.cache.hits + h.cache.misses = h.log.countP Event.isRequest

theorem balanced_empty : Balanced ({} : History α) where
  filled := Filled.clear {}
  held := fun key g => ⟨fun h => absurd h (by simp [held?]), fun h => absurd h (not_held_nil key g)⟩
  misses := rfl
  requests := rfl

/-- One more event keeps the balance if the cache follows it: it holds what the event grants and what it does
not remove, and counts what the event counts. -/
theorem Balanced.append {h : History α} (hh : Balanced h) {event : Event α} {c : Cache α}
    (hfilled : c.Filled)
    (hheld : ∀ key g, c.held? key = some g ↔
      event.Grants key g ∨ (¬ event.Removes key ∧ h.cache.held? key = some g))
    (hmisses : c.misses = h.cache.misses + if event.built then 1 else 0)
    (hrequests : c.hits + c.misses =
      h.cache.hits + h.cache.misses + if event.isRequest then 1 else 0) :
    Balanced ⟨h.log ++ [event], c⟩ where
  filled := hfilled
  held key g := by rw [hheld, hh.held, held_append_iff]
  misses := by rw [hmisses, hh.misses, List.countP_append, List.countP_singleton]
  requests := by rw [hrequests, hh.requests, List.countP_append, List.countP_singleton]

/-- A request that finds its group. -/
theorem Balanced.hit {h : History α} (hh : Balanced h) {i : Identity} {g : α}
    (hget : h.cache.get i = some g) (build : Except Fault α) :
    Balanced (h.step (.obtain i build)) := by
  have hrun : (Call.obtain i build).run h.cache =
      (.granted (.ok g) false, { h.cache with hits := h.cache.hits + 1 }) := by
    rw [Call.run, obtain_of_get_some hget]
  rw [History.step, hrun]
  refine hh.append ⟨hh.filled.nodup, hh.filled.isSome⟩ ?_ rfl (Nat.add_right_comm _ _ _)
  intro key g'
  constructor
  · exact fun hheld => .inr ⟨not_false, hheld⟩
  · rintro (⟨rfl, rfl⟩ | ⟨-, hheld⟩)
    · exact hget
    · exact hheld

/-- A request for which a group is built. -/
theorem Balanced.build {h : History α} (hh : Balanced h) {i : Identity} (hget : h.cache.get i = none)
    (g : α) : Balanced (h.step (.obtain i (.ok g))) := by
  have hrun : (Call.obtain i (.ok g)).run h.cache =
      (.granted (.ok g) true, { h.cache with misses := h.cache.misses + 1 }.store i (some g)) := by
    rw [Call.run, obtain_of_get_none hget]
    rfl
  rw [History.step, hrun]
  have hfilled : Filled { h.cache with misses := h.cache.misses + 1 } :=
    ⟨hh.filled.nodup, hh.filled.isSome⟩
  refine hh.append (hfilled.store i g) ?_ rfl rfl
  intro key g'
  rw [held?_store]
  by_cases hk : key = i.key
  · -- nothing was held under the key, and now the new group is
    subst hk
    have hnone : h.cache.held? i.key = none := hget
    simp [Event.Grants, Event.Removes, hnone]
  · simp [Event.Grants, Event.Removes, hk, Ne.symm hk, held?]

/-- A request for which building fails. -/
theorem Balanced.fail {h : History α} (hh : Balanced h) {i : Identity} (hget : h.cache.get i = none)
    (e : Fault) : Balanced (h.step (.obtain i (.error e))) := by
  have hrun : (Call.obtain i (.error e)).run h.cache =
      ((.granted (.error e) true : Answer α), { h.cache with misses := h.cache.misses + 1 }) := by
    rw [Call.run, obtain_of_get_none hget]
    rfl
  rw [History.step, hrun]
  refine hh.append ⟨hh.filled.nodup, hh.filled.isSome⟩ ?_ rfl rfl
  intro key g
  simp [Event.Grants, Event.Removes, held?]

/-- A call that is no request changes the cache by removing keys. -/
theorem Balanced.of_removes {h : History α} (hh : Balanced h) {event : Event α} {c : Cache α}
    (hfilled : c.Filled) (hhits : c.hits = h.cache.hits) (hmisses : c.misses = h.cache.misses)
    (hrequest : event.isRequest = false) (hbuilt : event.built = false)
    (hgrants : ∀ key g, ¬ event.Grants key g)
    (hheld : ∀ key g, c.held? key = some g ↔ ¬ event.Removes key ∧ h.cache.held? key = some g) :
    Balanced ⟨h.log ++ [event], c⟩ := by
  refine hh.append hfilled ?_ ?_ ?_
  · intro key g
    rw [hheld, or_iff_right (hgrants key g)]
  · simp [hbuilt, hmisses]
  · simp [hrequest, hhits, hmisses]

/-- Every call keeps the balance. -/
theorem Balanced.step {h : History α} (hh : Balanced h) (call : Call α) : Balanced (h.step call) := by
  cases call with
  | obtain i build =>
    cases hget : h.cache.get i with
    | some g => exact hh.hit hget build
    | none =>
      cases build with
      | error e => exact hh.fail hget e
      | ok g => exact hh.build hget g
  | get i =>
    exact hh.of_removes hh.filled rfl rfl rfl rfl (fun _ _ => not_false)
      (fun key g => (and_iff_right not_false).symm)
  | contains i =>
    exact hh.of_removes hh.filled rfl rfl rfl rfl (fun _ _ => not_false)
      (fun key g => (and_iff_right not_false).symm)
  | invalidate i =>
    refine hh.of_removes (hh.filled.invalidate i) rfl rfl rfl rfl (fun _ _ => not_false) ?_
    intro key g
    show (h.cache.invalidate i).2.held? key = some g ↔ _
    rw [held?_invalidate]
    by_cases hkey : key = i.key
    · simp [Event.Removes, hkey]
    · simp [Event.Removes, hkey, Ne.symm hkey]
  | clear =>
    refine hh.of_removes (Filled.clear h.cache) rfl rfl rfl rfl (fun _ _ => not_false) ?_
    intro key g
    have hnone : h.cache.clear.held? key = none := rfl
    show h.cache.clear.held? key = some g ↔ _
    simp [Event.Removes, hnone]

theorem balanced_of (calls : List (Call α)) : Balanced (History.of calls) := by
  -- the fold starts at any balanced history
  have hfold (h : History α) (hh : Balanced h) : Balanced (calls.foldl History.step h) := by
    induction calls generalizing h with
    | nil => exact hh
    | cons call rest ih => exact ih (h.step call) (hh.step call)
  exact hfold {} balanced_empty

/-! ## What is told about a cache -/

namespace Filled

variable {c : Cache α}

theorem contains_eq (hc : c.Filled) (i : Identity) : c.contains i = (c.get i).isSome :=
  hc.isSome_lookup i.key

theorem mem_targets_iff (c : Cache α) (i : Identity) : i.key ∈ c.targets ↔ c.contains i = true := by
  rw [targets, Text.mem_sorted, contains, Option.isSome_iff_ne_none, ne_eq, List.lookup_eq_none_iff,
    List.mem_map]
  constructor
  · rintro ⟨e, he, hkey⟩ hnone
    have hdiffers := hnone e he
    rw [hkey] at hdiffers
    simp at hdiffers
  · intro hsome
    apply Classical.byContradiction
    intro hno
    exact hsome fun e he => bne_iff_ne.mpr fun hkey => hno ⟨e, he, hkey.symm⟩

theorem pairwise_targets (hc : c.Filled) : c.targets.Pairwise (· < ·) :=
  Text.pairwise_lt_sorted hc.nodup

theorem length_targets (c : Cache α) : c.targets.length = c.size := by
  rw [targets, Text.length_sorted, List.length_map, size]

end Filled

/-- After any calls, a request finds its group exactly if an earlier one for the same key was granted a group
and no call removed the key since, and then it is granted that very group; building that fails changes no
entry. The counters tell the groups that had to be built and the requests, and what is told about the keys of
the cache agrees. -/
theorem obtain_built_iff_and_counters (calls : List (Call α)) :
    let log := (History.of calls).log
    let c := (History.of calls).cache
    (∀ (i : Identity) (build : Except Fault α),
      ((c.obtain i (build.map some)).built = false ↔ ∃ g, Held log i.key g) ∧
      (∀ g, Held log i.key g → (c.obtain i (build.map some)).answer = .ok g) ∧
      ∀ e, build = .error e → (c.obtain i (build.map some)).cache.entries = c.entries) ∧
    c.misses = log.countP Event.built ∧
    c.hits + c.misses = log.countP Event.isRequest ∧
    (∀ i, c.contains i = (c.get i).isSome ∧ (i.key ∈ c.targets ↔ c.contains i = true) ∧
      (c.invalidate i).1 = c.contains i) ∧
    c.targets.Pairwise (· < ·) ∧ c.size = c.targets.length := by
  intro log c
  have hc : Balanced (History.of calls) := balanced_of calls
  refine ⟨?_, hc.misses, hc.requests, ?_, hc.filled.pairwise_targets, (Filled.length_targets c).symm⟩
  · intro i build
    have hheld (g : α) : c.get i = some g ↔ Held log i.key g := hc.held i.key g
    cases hget : c.get i with
    | some g =>
      rw [obtain_of_get_some hget]
      refine ⟨⟨fun _ => ⟨g, (hheld g).mp hget⟩, fun _ => rfl⟩, ?_, fun _ _ => rfl⟩
      intro g' hg'
      have hsame : some g = some g' := hget.symm.trans ((hheld g').mpr hg')
      rw [Option.some.inj hsame]
    | none =>
      have hnone (g : α) : ¬ Held log i.key g := by
        intro hg
        have := (hheld g).mpr hg
        rw [hget] at this
        cases this
      rw [obtain_of_get_none hget]
      refine ⟨⟨fun hbuilt => Bool.noConfusion hbuilt, fun ⟨g, hg⟩ => absurd hg (hnone g)⟩,
        fun g hg => absurd hg (hnone g), ?_⟩
      rintro e rfl
      rfl
  · intro i
    have hcontains : c.contains i = (c.get i).isSome := hc.filled.contains_eq i
    exact ⟨hcontains, Filled.mem_targets_iff c i, hcontains.symm⟩

/-- After a failed request and a granted one, names in other cases find the group. -/
theorem obtain_built_iff_and_counters_php :
    let php : Identity := ⟨"Php", "1", by decide, by decide⟩
    let shouted : Identity := ⟨"PHP", "2", by decide, by decide⟩
    let calls : List (Call Nat) := [.obtain php (.error .emptyGrammar), .obtain shouted (.ok 7)]
    let c := (History.of calls).cache
    Held (History.of calls).log php.key 7 ∧
      (c.obtain php (.ok (some 8))).built = false ∧ (c.obtain php (.ok (some 8))).answer = .ok 7 ∧
      c.hits + c.misses = 2 := by
  intro php shouted calls c
  have hkey : shouted.key = php.key := by decide +kernel
  have hheld : Held (History.of calls).log php.key 7 :=
    ⟨[_], _, [], rfl, ⟨hkey, rfl⟩, fun _ hlater => absurd hlater List.not_mem_nil⟩
  obtain ⟨hobtain, -, hrequests, -⟩ := obtain_built_iff_and_counters calls
  obtain ⟨hbuilt, hanswer, -⟩ := hobtain php (.ok 8)
  exact ⟨hheld, hbuilt.mpr ⟨7, hheld⟩, hanswer 7 hheld, hrequests⟩

end Emission.Template.Cache
