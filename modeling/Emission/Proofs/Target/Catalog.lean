import Emission.Entries
import Emission.Proofs.Fault
import Emission.Proofs.Text.Case
import Emission.Proofs.Text.Order
import Emission.Target.Catalog

/-!
# What is found in a catalog

A catalog keeps each target under the lower case of its name, and so finds it under that key and under any
spelling with the same key. Main statements: `lookup_register` and `lookup_unregister`, what is found after a
change, and `describe_eq`, every listed name leads to its target.
-/

namespace Emission.Target.Catalog

variable {c : Catalog}

/-- Each key once, and each target under the key of its own name. -/
structure Keyed (c : Catalog) : Prop where
  nodup : (c.entries.map (·.1)).Nodup
  key : ∀ e ∈ c.entries, e.1 = e.2.2.identity.key

/-- The key of a name is the key of itself. -/
theorem keyOf_key (i : Identity) : Identity.keyOf i.key = i.key := Text.lower_lower i.name

/-! ## Registering and unregistering -/

/-- A target may be registered unless its name is taken, and a taken one if it may be given to another. -/
theorem register_fst (c : Catalog) (object : Nat) (t : Target) (replace : Bool) :
    (c.register object t replace).1 = !(c.isRegistered t.name && !replace) := by
  rw [register]
  cases c.isRegistered t.name && !replace <;> rfl

theorem register_of_false {object : Nat} {t : Target} {replace : Bool}
    (h : (c.register object t replace).1 = false) : (c.register object t replace).2 = c := by
  rw [register] at h ⊢
  split at h
  · next hno => rw [if_pos hno]
  · cases h

theorem register_of_true {object : Nat} {t : Target} {replace : Bool}
    (h : (c.register object t replace).1 = true) :
    (c.register object t replace).2 = { c with entries := Entries.put t.identity.key (object, t) c.entries } := by
  rw [register] at h ⊢
  split at h
  · cases h
  · next hno => rw [if_neg hno]

/-- A registered target is found under its key, and nothing else changes. -/
theorem lookup_register {object : Nat} {t : Target} {replace : Bool}
    (h : (c.register object t replace).1 = true) (key : String) :
    (c.register object t replace).2.entries.lookup key =
      if key = t.identity.key then some (object, t) else c.entries.lookup key := by
  rw [register_of_true h, Entries.lookup_put]

theorem lookup_unregister (c : Catalog) (name key : String) :
    (c.unregister name).2.entries.lookup key =
      if key = Identity.keyOf name then none else c.entries.lookup key :=
  Entries.lookup_filter_ne _ _ _

theorem keyed_empty : Keyed {} where
  nodup := List.nodup_nil
  key := fun _ he => absurd he List.not_mem_nil

namespace Keyed

theorem register (hc : c.Keyed) (object : Nat) (t : Target) (replace : Bool) :
    (c.register object t replace).2.Keyed := by
  cases h : (c.register object t replace).1 with
  | false =>
    rw [register_of_false h]
    exact hc
  | true =>
    rw [register_of_true h]
    refine ⟨Entries.nodup_keys_put hc.nodup _ _, fun e he => ?_⟩
    rcases Entries.mem_put he with rfl | he
    · rfl
    · exact hc.key e he

theorem unregister (hc : c.Keyed) (name : String) : (c.unregister name).2.Keyed where
  nodup := (List.filter_sublist.map _).nodup hc.nodup
  key := fun e he => hc.key e (List.mem_filter.mp he).1

/-! ## Finding -/

/-- What is found under a name has the key of the name. -/
theorem key_of_find? (hc : c.Keyed) {name : String} {e : Nat × Target} (h : c.find? name = some e) :
    e.2.identity.key = Identity.keyOf name :=
  (hc.key _ (Entries.mem_of_lookup h)).symm

/-- A target that is found under some name is found under every name with its key. -/
theorem find?_of_keyOf (hc : c.Keyed) {name other : String} {e : Nat × Target} (h : c.find? name = some e)
    (hother : Identity.keyOf other = e.2.identity.key) : c.find? other = some e := by
  rw [find?, hother, hc.key_of_find? h]
  exact h

theorem find?_name (hc : c.Keyed) {name : String} {e : Nat × Target} (h : c.find? name = some e) :
    c.find? e.2.name = some e :=
  hc.find?_of_keyOf h rfl

theorem find?_key (hc : c.Keyed) {name : String} {e : Nat × Target} (h : c.find? name = some e) :
    c.find? e.2.identity.key = some e :=
  hc.find?_of_keyOf h (keyOf_key e.2.identity)

theorem find?_of_mem (hc : c.Keyed) {e : String × Nat × Target} (he : e ∈ c.entries) :
    c.find? e.2.2.name = some e.2 := by
  refine Entries.lookup_of_mem hc.nodup ?_
  have hkey : e.1 = Identity.keyOf e.2.2.name := hc.key e he
  rw [← hkey]
  exact he

end Keyed

/-! ## Spellings of a name -/

section Spellings

variable {m n : String}

theorem find?_congr (c : Catalog) (h : Identity.keyOf m = Identity.keyOf n) : c.find? m = c.find? n := by
  rw [find?, h]
  rfl

theorem isRegistered_congr (c : Catalog) (h : Identity.keyOf m = Identity.keyOf n) :
    c.isRegistered m = c.isRegistered n := by
  rw [isRegistered, c.find?_congr h]
  rfl

theorem unregister_congr (c : Catalog) (h : Identity.keyOf m = Identity.keyOf n) :
    c.unregister m = c.unregister n := by
  rw [unregister, unregister, c.isRegistered_congr h, h]

/-- Of targets with one key either both may be registered or none, and the same names are registered then. -/
theorem register_congr (c : Catalog) {t u : Target} (h : t.identity.key = u.identity.key) (p q : Nat)
    (replace : Bool) :
    (c.register p t replace).1 = (c.register q u replace).1 ∧
      ∀ name, (c.register p t replace).2.isRegistered name = (c.register q u replace).2.isRegistered name := by
  have htaken : c.isRegistered t.name = c.isRegistered u.name := c.isRegistered_congr h
  have hadded : (c.register p t replace).1 = (c.register q u replace).1 := by
    rw [register_fst, register_fst, htaken]
  refine ⟨hadded, fun name => ?_⟩
  cases hcase : (c.register p t replace).1 with
  | false => rw [register_of_false hcase, register_of_false (hadded ▸ hcase)]
  | true =>
    rw [isRegistered, isRegistered, find?, find?, lookup_register hcase, lookup_register (hadded ▸ hcase), h]
    split <;> rfl

end Spellings

/-! ## Listing -/

namespace Keyed

theorem mem_names_iff {name : String} : name ∈ c.names ↔ ∃ e ∈ c.entries, e.2.2.name = name := by
  rw [names, Text.mem_sorted, List.mem_map]

/-- The names are all different, since their keys are. -/
theorem pairwise_names (hc : c.Keyed) : c.names.Pairwise (· < ·) := by
  apply Text.pairwise_lt_sorted
  have hkeys : (c.entries.map fun e => e.2.2.name).map Identity.keyOf = c.entries.map (·.1) := by
    rw [List.map_map]
    exact List.map_congr_left fun e he => (hc.key e he).symm
  have hnodup : ((c.entries.map fun e => e.2.2.name).map Identity.keyOf).Nodup := by
    rw [hkeys]
    exact hc.nodup
  refine List.Pairwise.of_map Identity.keyOf ?_ hnodup
  rintro name _ hne rfl
  exact hne rfl

end Keyed

/-- The targets in the order of their names. -/
def listed (c : Catalog) : List (Nat × Target) := c.names.filterMap c.find?

namespace Keyed

theorem find?_of_mem_names (hc : c.Keyed) {name : String} (hname : name ∈ c.names) :
    ∃ e, c.find? name = some e ∧ e.2.name = name := by
  obtain ⟨e, he, rfl⟩ := mem_names_iff.mp hname
  exact ⟨e.2, hc.find?_of_mem he, rfl⟩

theorem mem_listed_iff (hc : c.Keyed) {e : Nat × Target} :
    e ∈ c.listed ↔ ∃ name, c.find? name = some e := by
  rw [listed, List.mem_filterMap]
  constructor
  · rintro ⟨name, -, hfind⟩
    exact ⟨name, hfind⟩
  · rintro ⟨name, hfind⟩
    refine ⟨e.2.name, ?_, hc.find?_name hfind⟩
    exact mem_names_iff.mpr ⟨_, Entries.mem_of_lookup hfind, rfl⟩

/-- Each listed target has declared the name that stands in its place. -/
theorem map_name_listed (hc : c.Keyed) : c.listed.map (·.2.name) = c.names := by
  have hall (ns : List String) (hns : ∀ name ∈ ns, name ∈ c.names) :
      (ns.filterMap c.find?).map (·.2.name) = ns := by
    induction ns with
    | nil => rfl
    | cons name rest ih =>
      obtain ⟨e, hfind, hname⟩ := hc.find?_of_mem_names (hns name List.mem_cons_self)
      rw [List.filterMap_cons_some hfind, List.map_cons, hname,
        ih fun n hn => hns n (List.mem_cons_of_mem name hn)]
  exact hall c.names fun _ h => h

/-- Every listed name leads to its target, so all of them are described. -/
theorem describe_eq (hc : c.Keyed) : c.describe = .ok (c.listed.map fun e => e.2.describe) := by
  have hall (ns : List String) (hns : ∀ name ∈ ns, name ∈ c.names) :
      (ns.mapM fun name => (c.get name).map fun e => e.2.describe) =
        .ok ((ns.filterMap c.find?).map fun e => e.2.describe) := by
    induction ns with
    | nil => rfl
    | cons name rest ih =>
      obtain ⟨e, hfind, -⟩ := hc.find?_of_mem_names (hns name List.mem_cons_self)
      have hget : c.get name = .ok e := by simp only [get, hfind]
      rw [List.mapM_cons, hget, ih fun n hn => hns n (List.mem_cons_of_mem name hn),
        List.filterMap_cons_some hfind]
      rfl
  exact hall c.names fun _ h => h

end Keyed

end Emission.Target.Catalog
