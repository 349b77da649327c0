import Emission.Proofs.Log
import Emission.Proofs.Template.Cache

/-!
# Requests that fail, and vacant entries

A cache records what building gave it before it takes the length of it. So a request can fail and leave an entry
behind: one with a thing that has no length, or a vacant one, under which nothing is held. Main statement:
`failure_keeps_iff_and_vacant`, a request that fails changes no answer of the cache exactly if building failed or
gave nothing once more, and the two ways to tell that a key is there agree exactly where no entry is vacant.
-/

namespace Emission.Template.Cache

open Emission.Target (Identity)

variable {α : Type} (length? : α → Except Fault Nat)

/-! ## Things of any kind -/

variable {length?} {c : Cache α} {i : Identity}

theorem obtainAny_of_get_some {thing : α} (h : c.get i = some thing) (build : Except Fault (Option α)) :
    c.obtainAny length? i build = ⟨.ok thing, { c with hits := c.hits + 1 }, false⟩ := by
  simp only [obtainAny, request, h]

theorem obtainAny_error (h : c.get i = none) (e : Fault) :
    c.obtainAny length? i (.error e) = ⟨.error e, { c with misses := c.misses + 1 }, true⟩ := by
  simp only [obtainAny, request, h]

theorem obtainAny_ok (h : c.get i = none) (thing : Option α) :
    c.obtainAny length? i (.ok thing) =
      ⟨measured length? thing, { c with misses := c.misses + 1 }.store i thing, true⟩ := by
  simp only [obtainAny, request, h]

/-- If every thing has a length, then this is the request for a group. -/
theorem obtainAny_eq_obtain (hlength : ∀ thing, ∃ n, length? thing = .ok n) (c : Cache α) (i : Identity)
    (build : Except Fault (Option α)) : c.obtainAny length? i build = c.obtain i build := by
  cases hget : c.get i with
  | some thing => rw [obtainAny_of_get_some hget, obtain_of_get_some hget]
  | none =>
    rw [obtain_of_get_none hget]
    rcases build with e | _ | thing
    · rw [obtainAny_error hget]
      rfl
    · rw [obtainAny_ok hget]
      rfl
    · obtain ⟨n, hn⟩ := hlength thing
      rw [obtainAny_ok hget, measured, hn]
      rfl

/-! ## Calls and what they lead to -/

/-- A call that may change what is in a cache. Building fails, gives a thing or gives nothing. -/
inductive Deed (α : Type)
  | obtain (i : Identity) (build : Except Fault (Option α))
  | invalidate (i : Identity)
  | clear

variable (length?) in
/-- The cache after a call. -/
def Deed.cache (c : Cache α) : Deed α → Cache α
  | obtain i build => (c.obtainAny length? i build).cache
  | invalidate i => (c.invalidate i).2
  | clear => c.clear

variable (length?) in
/-- Is the call a request that fails? -/
def Deed.fails (c : Cache α) : Deed α → Bool
  | obtain i build => !(c.obtainAny length? i build).answer.isOk
  | _ => false

/-- A cache and the calls that led to it, each with whether it failed, the latest last. -/
structure Chronicle (α : Type) where
  log : List (Deed α × Bool) := []
  cache : Cache α := {}

variable (length?) in
def Chronicle.step (h : Chronicle α) (deed : Deed α) : Chronicle α :=
  ⟨h.log ++ [(deed, deed.fails length? h.cache)], deed.cache length? h.cache⟩

variable (length?) in
/-- What calls lead to from the empty cache. -/
def Chronicle.of (deeds : List (Deed α)) : Chronicle α := deeds.foldl (step length?) {}

/-- A request for the key was given nothing, and so it failed. -/
def GivenNothing (key : String) : Deed α × Bool → Prop
  | (.obtain i (.ok none), true) => i.key = key
  | _ => False

/-- A call that gives the key a thing or removes it. -/
def Ends (key : String) : Deed α × Bool → Prop
  | (.obtain i (.ok (some _)), _) => i.key = key
  | (.invalidate i, _) => i.key = key
  | (.clear, _) => True
  | _ => False

/-- The last that was built for the key was nothing, and the key was not removed since. -/
def Vacant (log : List (Deed α × Bool)) (key : String) : Prop := Since (GivenNothing key) (Ends key) log

/-! ## What a call does to an entry -/

theorem get_eq_none_iff : c.get i = none ↔
    c.entries.lookup i.key = none ∨ c.entries.lookup i.key = some none := by
  rw [get]
  rcases c.entries.lookup i.key with _ | _ | thing <;> simp

/-- A request changes only the entry of its key, and that only if something was built for it. -/
theorem lookup_obtainAny (c : Cache α) (i : Identity) (build : Except Fault (Option α)) (key : String) :
    (c.obtainAny length? i build).cache.entries.lookup key =
      match c.get i, build with
      | none, .ok thing => if key = i.key then some thing else c.entries.lookup key
      | _, _ => c.entries.lookup key := by
  cases hget : c.get i with
  | some thing => rw [obtainAny_of_get_some hget]
  | none =>
    cases build with
    | error e => rw [obtainAny_error hget]
    | ok thing => rw [obtainAny_ok hget, lookup_store]

/-! ## What every chronicle keeps -/

/-- Each key is there once, and the vacant entries are the ones that the log tells of. -/
structure Told (h : Chronicle α) : Prop where
  nodup : (h.cache.entries.map (·.1)).Nodup
  vacant : ∀ key, h.cache.entries.lookup key = some none ↔ Vacant h.log key

theorem nodup_keys_obtainAny (h : (c.entries.map (·.1)).Nodup) (i : Identity)
    (build : Except Fault (Option α)) :
    ((c.obtainAny length? i build).cache.entries.map (·.1)).Nodup := by
  cases hget : c.get i with
  | some thing =>
    rw [obtainAny_of_get_some hget]
    exact h
  | none =>
    cases build with
    | error e =>
      rw [obtainAny_error hget]
      exact h
    | ok thing =>
      rw [obtainAny_ok hget]
      exact nodup_keys_store h i thing

/-- A vacant entry is left by a call that gives nothing, or it was there and the call does not end it. -/
theorem lookup_cache_eq_vacant_iff (c : Cache α) (deed : Deed α) (key : String) :
    (deed.cache length? c).entries.lookup key = some none ↔
      GivenNothing key (deed, deed.fails length? c) ∨
        (¬Ends key (deed, deed.fails length? c) ∧ c.entries.lookup key = some none) := by
  cases deed with
  | invalidate i =>
    rw [Deed.cache, lookup_invalidate]
    by_cases hkey : key = i.key
    · simp [GivenNothing, Ends, hkey]
    · simp [GivenNothing, Ends, hkey, Ne.symm hkey]
  | clear => simp [Deed.cache, clear, GivenNothing, Ends]
  | obtain i build =>
    rw [Deed.cache, lookup_obtainAny]
    cases hget : c.get i with
    | some thing =>
      -- the request is granted what is there, so the entry of its key is not vacant
      have hthere : c.entries.lookup i.key = some (some thing) := Option.join_eq_some_iff.mp hget
      have hnot : Deed.fails length? c (.obtain i build) = false := by
        rw [Deed.fails, obtainAny_of_get_some hget]
        rfl
      rw [hnot]
      rcases build with e | _ | built
      · simp [GivenNothing, Ends]
      · simp [GivenNothing, Ends]
      · by_cases hkey : key = i.key
        · simp [GivenNothing, Ends, hkey, hthere]
        · simp [GivenNothing, Ends, Ne.symm hkey]
    | none =>
      rcases build with e | _ | built
      · simp [GivenNothing, Ends]
      · have hfails : Deed.fails length? c (.obtain i (.ok none)) = true := by
          rw [Deed.fails, obtainAny_ok hget]
          rfl
        rw [hfails]
        by_cases hkey : key = i.key
        · simp [GivenNothing, Ends, hkey]
        · simp [GivenNothing, Ends, hkey, Ne.symm hkey]
      · by_cases hkey : key = i.key
        · simp [GivenNothing, Ends, hkey]
        · simp [GivenNothing, Ends, hkey, Ne.symm hkey]

theorem told_empty : Told ({} : Chronicle α) where
  nodup := List.nodup_nil
  vacant _ := ⟨fun h => absurd h (by simp), fun h => absurd h not_since_nil⟩

theorem Told.step {h : Chronicle α} (hh : Told h) (deed : Deed α) : Told (h.step length? deed) where
  nodup := by
    cases deed with
    | obtain i build => exact nodup_keys_obtainAny hh.nodup i build
    | invalidate i => exact nodup_keys_invalidate hh.nodup i
    | clear => exact List.nodup_nil
  vacant key := by
    rw [Chronicle.step, lookup_cache_eq_vacant_iff, hh.vacant]
    exact since_append_iff.symm

theorem told_of (deeds : List (Deed α)) : Told (Chronicle.of length? deeds) := by
  -- the fold starts at any chronicle that is told
  have hfold (h : Chronicle α) (hh : Told h) : Told (deeds.foldl (Chronicle.step length?) h) := by
    induction deeds generalizing h with
    | nil => exact hh
    | cons deed rest ih => exact ih _ (hh.step deed)
  exact hfold {} told_empty

/-! ## What a cache answers -/

/-- Two caches answer alike to everything but the counters. -/
structure SameAnswers (c d : Cache α) : Prop where
  contains : ∀ j, c.contains j = d.contains j
  get : ∀ j, c.get j = d.get j
  targets : c.targets = d.targets
  size : c.size = d.size

theorem SameAnswers.of_entries {c d : Cache α} (h : c.entries = d.entries) : SameAnswers c d where
  contains j := by rw [Cache.contains, h, Cache.contains]
  get j := by rw [Cache.get, h, Cache.get]
  targets := by rw [Cache.targets, h, Cache.targets]
  size := by rw [Cache.size, h, Cache.size]

/-- A key that is there, with nothing under it. -/
theorem lookup_eq_vacant_iff :
    c.entries.lookup i.key = some none ↔ c.contains i = true ∧ c.get i = none := by
  rw [Cache.contains, Cache.get]
  rcases c.entries.lookup i.key with _ | _ | thing <;> simp

/-- To remove a target removes its entry, if it is there. -/
theorem size_invalidate (h : (c.entries.map (·.1)).Nodup) (i : Identity) :
    (c.invalidate i).2.size + (if c.contains i then 1 else 0) = c.size :=
  Entries.length_filter_ne h i.key

/-- To remove a target changes how many entries there are exactly if it is there. -/
theorem size_invalidate_lt_iff (h : (c.entries.map (·.1)).Nodup) (i : Identity) :
    (c.invalidate i).2.size < c.size ↔ c.contains i = true := by
  have hsize := size_invalidate h i
  by_cases hcontains : c.contains i = true
  · rw [if_pos hcontains] at hsize
    exact ⟨fun _ => hcontains, fun _ => by omega⟩
  · rw [if_neg hcontains] at hsize
    exact ⟨fun hlt => by omega, fun hno => absurd hno hcontains⟩

/-- A request fails if building does, or if what was built for it has no length. -/
theorem failed_obtainAny {build : Except Fault (Option α)} {e : Fault}
    (h : (c.obtainAny length? i build).answer = .error e) :
    c.get i = none ∧ (build = .error e ∨ ∃ thing, build = .ok thing ∧ measured length? thing = .error e) := by
  cases hget : c.get i with
  | some thing =>
    rw [obtainAny_of_get_some hget] at h
    cases h
  | none =>
    refine ⟨rfl, ?_⟩
    cases build with
    | error e' =>
      rw [obtainAny_error hget] at h
      exact .inl (congrArg Except.error (Except.error.inj h))
    | ok thing =>
      rw [obtainAny_ok hget] at h
      exact .inr ⟨thing, rfl, h⟩

variable (length?) in
/-- What was built for a request that found nothing is there after it, whatever the request answers. -/
theorem given_obtainAny (h : c.get i = none) (thing : Option α) :
    let after := (c.obtainAny length? i (.ok thing)).cache
    after.contains i = true ∧ after.get i = thing ∧
      ∀ key, key ∈ after.targets ↔ key = i.key ∨ key ∈ c.targets := by
  intro after
  have hlookup : after.entries.lookup i.key = some thing := by
    rw [lookup_obtainAny, h]
    exact if_pos rfl
  refine ⟨?_, ?_, fun key => ?_⟩
  · rw [Cache.contains, hlookup]
    rfl
  · rw [Cache.get, hlookup]
    rfl
  · have hafter : after.entries = Entries.put i.key thing c.entries :=
      congrArg (fun o : Obtained α => o.cache.entries) (obtainAny_ok h thing)
    rw [Cache.targets, Cache.targets, Text.mem_sorted, Text.mem_sorted, hafter, Entries.keys_put]
    split
    · next hmem =>
      constructor
      · exact .inr
      · rintro (rfl | hkey)
        · exact hmem
        · exact hkey
    · rw [List.mem_append, List.mem_singleton, or_comm]

/-- A request that fails leaves all answers as they are exactly if building failed, or gave nothing where nothing
was held already. -/
theorem sameAnswers_failed_iff {build : Except Fault (Option α)} {e : Fault}
    (h : (c.obtainAny length? i build).answer = .error e) :
    SameAnswers (c.obtainAny length? i build).cache c ↔
      build = .error e ∨ build = .ok none ∧ c.entries.lookup i.key = some none := by
  obtain ⟨hget, rfl | ⟨thing, rfl, -⟩⟩ := failed_obtainAny h
  · rw [obtainAny_error hget]
    exact ⟨fun _ => .inl rfl, fun _ => .of_entries rfl⟩
  · obtain ⟨hthere, hheld, -⟩ := given_obtainAny length? hget thing
    constructor
    · intro hsame
      have hbefore : c.contains i = true := (hsame.contains i).symm.trans hthere
      have hnothing : thing = none := hheld.symm.trans ((hsame.get i).trans hget)
      exact .inr ⟨congrArg Except.ok hnothing, lookup_eq_vacant_iff.mpr ⟨hbefore, hget⟩⟩
    · rintro (hno | ⟨hnothing, hvacant⟩)
      · cases hno
      · obtain rfl := Except.ok.inj hnothing
        rw [obtainAny_ok hget]
        exact .of_entries (Entries.put_of_lookup hvacant)

/-! ## Failures in every chronicle -/

variable (length?) in
/-- After any calls, a request that fails changes no answer but the counters exactly if building failed, or if it
gave nothing for a key whose entry was vacant; it never changes what is answered for other keys, and what building
gave is there after it. A vacant entry is there although nothing is held under it, and to remove it tells that
nothing was removed; for every other key, to be there is to hold something, and to remove it tells whether an
entry was removed. Where every thing has a length, as groups have, these are the requests for groups. -/
theorem failure_keeps_iff_and_vacant (deeds : List (Deed α)) :
    let log := (Chronicle.of length? deeds).log
    let c := (Chronicle.of length? deeds).cache
    (∀ i build e, (c.obtainAny length? i build).answer = .error e →
      let after := (c.obtainAny length? i build).cache
      (SameAnswers after c ↔ build = .error e ∨ build = .ok none ∧ Vacant log i.key) ∧
      (∀ j, j.key ≠ i.key → after.contains j = c.contains j ∧ after.get j = c.get j) ∧
      ∀ thing, build = .ok thing → after.contains i = true ∧ after.get i = thing ∧
        ∀ key, key ∈ after.targets ↔ key = i.key ∨ key ∈ c.targets) ∧
    (∀ j, Vacant log j.key → c.contains j = true ∧ c.get j = none ∧
      (c.invalidate j).1 = false ∧ (c.invalidate j).2.size < c.size) ∧
    (∀ j, ¬Vacant log j.key → (c.contains j = true ↔ c.get j ≠ none) ∧
      ((c.invalidate j).1 = true ↔ (c.invalidate j).2.size < c.size)) ∧
    ((∀ thing, ∃ n, length? thing = .ok n) → ∀ i build, c.obtainAny length? i build = c.obtain i build) := by
  intro log c
  -- vacancy in the log and vacancy in the cache are the same, by the invariant of the deeds
  have htold : Told (Chronicle.of length? deeds) := told_of deeds
  have hvacant (j : Identity) : Vacant log j.key ↔ c.contains j = true ∧ c.get j = none := by
    rw [← htold.vacant]
    exact lookup_eq_vacant_iff
  refine ⟨fun i build e hfails => ⟨?_, fun j hj => ?_, ?_⟩, fun j hj => ?_, fun j hj => ?_,
    fun hlength => obtainAny_eq_obtain hlength c⟩
  · rw [sameAnswers_failed_iff hfails, ← htold.vacant]
  · have hlookup : (c.obtainAny length? i build).cache.entries.lookup j.key = c.entries.lookup j.key := by
      rw [lookup_obtainAny]
      split
      · exact if_neg hj
      · rfl
    rw [Cache.contains, Cache.get, hlookup]
    exact ⟨rfl, rfl⟩
  · rintro thing rfl
    exact given_obtainAny length? (failed_obtainAny hfails).1 thing
  · obtain ⟨hthere, hget⟩ := (hvacant j).mp hj
    refine ⟨hthere, hget, ?_, (size_invalidate_lt_iff htold.nodup j).mpr hthere⟩
    rw [Cache.invalidate, hget]
    rfl
  · have hiff : c.contains j = true ↔ c.get j ≠ none := by
      constructor
      · exact fun hthere hget => hj ((hvacant j).mpr ⟨hthere, hget⟩)
      · intro hget
        rw [Cache.contains, Option.isSome_iff_ne_none]
        exact fun hno => hget (get_eq_none_iff.mpr (.inl hno))
    refine ⟨hiff, ?_⟩
    rw [size_invalidate_lt_iff htold.nodup, hiff, Cache.invalidate, Option.isSome_iff_ne_none]

/-- Once nothing was given for a target, another request that is given nothing changes no answer. -/
theorem failure_keeps_iff_and_vacant_php :
    let php : Identity := ⟨"Php", "1", by decide, by decide⟩
    let length? : Nat → Except Fault Nat := .ok
    let h := Chronicle.of length? [.obtain php (.ok none)]
    (∃ e, (h.cache.obtainAny length? php (.ok none)).answer = .error e) ∧
      SameAnswers (h.cache.obtainAny length? php (.ok none)).cache h.cache ∧
      Vacant h.log php.key ∧ h.cache.contains php = true ∧ (h.cache.invalidate php).1 = false := by
  intro php length? h
  have hvacant : Vacant h.log php.key :=
    ⟨[], _, [], rfl, rfl, fun _ hlater => absurd hlater List.not_mem_nil⟩
  obtain ⟨hfailed, hthere, -⟩ := failure_keeps_iff_and_vacant length? [.obtain php (.ok none)]
  obtain ⟨hcontains, hget, hinvalidate, -⟩ := hthere php hvacant
  have hanswer : (h.cache.obtainAny length? php (.ok none)).answer =
      .error (.misuse (.noLength Value.none.kind)) := by
    rw [obtainAny_ok hget]
    rfl
  obtain ⟨hkeeps, -⟩ := hfailed php (.ok none) _ hanswer
  exact ⟨⟨_, hanswer⟩, hkeeps.mpr (.inr ⟨rfl, hvacant⟩), hvacant, hcontains, hinvalidate⟩

/-- A request that is given nothing fails and leaves an entry: its target is there and holds nothing, and to
remove it removes the entry and tells that there was none. -/
theorem failed_request_leaves_entry :
    let php : Identity := ⟨"Php", "1", by decide, by decide⟩
    let o := ({} : Cache Nat).obtain php (.ok none)
    (∃ e, o.answer = .error e) ∧ ({} : Cache Nat).contains php = false ∧ o.cache.contains php = true ∧
      o.cache.get php = none ∧ (o.cache.invalidate php).1 = false ∧
      (o.cache.invalidate php).2.size < o.cache.size := by
  intro php o
  have hkey : php.key = "php" := by decide +kernel
  have hcache : o.cache = ⟨[("php", none)], 0, 1⟩ := by
    rw [← hkey]
    rfl
  rw [hcache]
  refine ⟨⟨_, rfl⟩, rfl, ?_, ?_, ?_, ?_⟩
  all_goals decide +kernel

end Emission.Template.Cache
