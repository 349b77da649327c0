import Emission.Proofs.Log
import Emission.Proofs.Session.Effect
import Emission.Proofs.Target.Catalog
import Emission.Session.Overview
import Emission.Session.Targets

/-!
# The history of the catalog

Calls about the catalog, made one after the other, and the log of what they answered. What is in the catalog
follows from the log: a name leads to the target that was last registered under its key, unless the key was
unregistered since. Main statement: `findTarget_iff_registered`, which says so, and that the list of names, what
is told about the targets and the interchangeable spellings of a name agree with it.
-/

namespace Emission.Session

open Target (Catalog Identity)

variable {s s' : Session}

/-! ## Calls -/

/-- A call about the catalog, or one that makes a target. -/
inductive CatalogCall
  | add (t : Target)
  | register (target : Nat) (replace : Bool)
  | unregister (name : String)
  | find (name : String)
  | isRegistered (name : String)
  | names
  | describe
  /-- The targets that come with the library are registered. -/
  | builtin

/-- What a call about the catalog answers. Of a target that is to be registered, its identity is told and
whether it was. -/
inductive CatalogAnswer
  | place (n : Nat)
  | registered (i : Identity) (added : Bool)
  | truth (b : Bool)
  | names (ns : List String)
  | descriptions (ds : List Target.Description)
  | done

namespace CatalogCall

def act : CatalogCall → Action CatalogAnswer
  | add t => .place <$> addTarget t
  | register p replace => do
    let t ← target p
    .registered t.identity <$> Session.register p replace
  | unregister name => .truth <$> Session.unregister name
  | find name => .place <$> findTarget name
  | isRegistered name => do return .truth ((← get).catalog.isRegistered name)
  | names => do return .names (← get).catalog.names
  | describe => .descriptions <$> describeTargets
  | builtin => do
    registerBuiltin
    return .done

/-- The calls that a call consists of. Registering what comes with the library asks for the PHP target, and
makes and registers it if it is not there. -/
def parts (s : Session) : CatalogCall → List CatalogCall
  | builtin =>
    .isRegistered Target.Php.target.name ::
      if s.catalog.isRegistered Target.Php.target.name then []
      else [.add Target.Php.target, .register s.targets.next false]
  | call => [call]

end CatalogCall

/-- A call and what it answered. -/
abbrev CatalogEvent := CatalogCall × Except Fault CatalogAnswer

/-- The session after the given calls. -/
def afterCalls (s : Session) : List CatalogCall → Session
  | [] => s
  | call :: rest => afterCalls (s.perform call.act).2 rest

/-- Calls with what they answer, as they are made one after the other. -/
def answered (s : Session) : List CatalogCall → List CatalogEvent
  | [] => []
  | call :: rest => (call, (s.perform call.act).1) :: answered (s.perform call.act).2 rest

/-- The log of the given calls, each one taken apart into those it consists of. -/
def catalogLog (s : Session) : List CatalogCall → List CatalogEvent
  | [] => []
  | call :: rest => s.answered (call.parts s) ++ catalogLog (s.perform call.act).2 rest

/-! ## What the log says -/

namespace CatalogEvent

/-- The target was registered under this key. -/
def Registers (key : String) (place : Nat) : CatalogEvent → Prop
  | (.register p _, .ok (.registered i true)) => i.key = key ∧ p = place
  | _ => False

/-- The key was unregistered, or another target was registered under it. -/
def Replaces (key : String) : CatalogEvent → Prop
  | (.unregister name, _) => Identity.keyOf name = key
  | event => ∃ place, event.Registers key place

end CatalogEvent

/-- The target is the one that was last registered under this key, and the key was not unregistered since. -/
def Registered (log : List CatalogEvent) (key : String) (place : Nat) : Prop :=
  Since (CatalogEvent.Registers key place) (CatalogEvent.Replaces key) log

section Append

variable {log : List CatalogEvent} {key : String} {other : Nat}

/-- A target that is registered takes the place of whatever was registered under its key. -/
theorem registered_append_register {i : Identity} {place : Nat} {replace : Bool} :
    Registered (log ++ [(.register place replace, .ok (.registered i true))]) key other ↔
      if key = i.key then other = place else Registered log key other := by
  rw [Registered, since_append_iff]
  split
  · next hkey =>
    subst hkey
    have hreplaces : CatalogEvent.Replaces i.key (.register place replace, .ok (.registered i true)) :=
      ⟨place, rfl, rfl⟩
    constructor
    · rintro (⟨-, rfl⟩ | ⟨hkept, -⟩)
      · rfl
      · exact absurd hreplaces hkept
    · rintro rfl
      exact .inl ⟨rfl, rfl⟩
  · next hkey =>
    have hother : ¬ ∃ p, CatalogEvent.Registers key p
        (.register place replace, .ok (.registered i true)) := by
      rintro ⟨p, hsame, -⟩
      exact hkey hsame.symm
    constructor
    · rintro (hnew | ⟨-, hbefore⟩)
      · exact absurd ⟨other, hnew⟩ hother
      · exact hbefore
    · exact fun hbefore => .inr ⟨hother, hbefore⟩

theorem registered_append_unregister {name : String} {answer : Except Fault CatalogAnswer} :
    Registered (log ++ [(.unregister name, answer)]) key other ↔
      key ≠ Identity.keyOf name ∧ Registered log key other := by
  rw [Registered, since_append_iff]
  constructor
  · rintro (hno | ⟨hkept, hbefore⟩)
    · exact absurd hno id
    · exact ⟨fun hkey => hkept hkey.symm, hbefore⟩
  · rintro ⟨hkey, hbefore⟩
    exact .inr ⟨fun hsame => hkey hsame.symm, hbefore⟩

end Append

/-! ## What calls do -/

theorem perform_registerTarget {place : Nat} {t : Target} (ht : s.targets.get? place = some t)
    (replace : Bool) :
    ∃ journal files, s.perform (register place replace) =
      (.ok (s.catalog.register place t replace).1,
        { s with catalog := (s.catalog.register place t replace).2, journal, files }) := by
  rw [register, target, perform_bind_of_ok (perform_fetch_of_some ht), perform_bind_of_ok perform_get]
  rcases s.catalog.register place t replace with ⟨added, catalog⟩
  cases added with
  | true => exact ⟨_, _, rfl⟩
  | false => exact ⟨_, _, rfl⟩

theorem perform_unregister (s : Session) (name : String) :
    s.perform (unregister name) =
      (.ok (s.catalog.unregister name).1, { s with catalog := (s.catalog.unregister name).2 }) := rfl

theorem perform_findTarget (s : Session) (name : String) :
    s.perform (findTarget name) = ((s.catalog.get name).map (·.1), s) := by
  rw [findTarget, perform_bind_of_ok perform_get, perform_bind, perform_ofExcept]
  cases s.catalog.get name <;> rfl

theorem perform_describeTargets (s : Session) :
    s.perform describeTargets = (s.catalog.describe, s) := by
  rw [describeTargets, perform_bind_of_ok perform_get, perform_ofExcept]

/-- Registering what comes with the library is asking for the PHP target, and making and registering it if it is
not there. -/
theorem afterCalls_parts (s : Session) (call : CatalogCall) :
    s.afterCalls (call.parts s) = (s.perform call.act).2 := by
  cases call with
  | builtin =>
    rw [CatalogCall.parts, CatalogCall.act, registerBuiltin, bind_assoc, perform_bind_of_ok perform_get]
    cases hfound : s.catalog.isRegistered Target.Php.target.name with
    | true => rfl
    | false =>
      let s₁ : Session := { s with targets := (s.targets.add Target.Php.target).2 }
      have ht : s₁.targets.get? s.targets.next = some Target.Php.target :=
        Store.get?_add_self s.targets Target.Php.target
      -- registering the target that comes along is adding it and registering it, if it is not there
      obtain ⟨journal, files, hregister⟩ := perform_registerTarget ht false
      have hadd : s.perform (addTarget Target.Php.target) = (.ok s.targets.next, s₁) := rfl
      have hact : s₁.perform (CatalogCall.register s.targets.next false).act =
          (.ok (.registered Target.Php.identity (s₁.catalog.register s.targets.next Target.Php.target false).1),
            { s₁ with
              catalog := (s₁.catalog.register s.targets.next Target.Php.target false).2, journal, files }) := by
        rw [CatalogCall.act, target, perform_bind_of_ok (perform_fetch_of_some ht), perform_map, hregister]
        rfl
      have hparts : s.afterCalls (.isRegistered Target.Php.target.name ::
          [.add Target.Php.target, .register s.targets.next false]) =
            (s₁.perform (CatalogCall.register s.targets.next false).act).2 := rfl
      rw [if_neg (by decide), hparts, hact]
      simp only [Bool.not_false, if_true, bind_assoc]
      rw [perform_bind_of_ok hadd, perform_bind_of_ok hregister]
      rfl
  | _ => rfl

/-! ## What every history keeps -/

/-- What links a session to the log of the calls that led to it. -/
structure Reflects (log : List CatalogEvent) (s : Session) : Prop where
  keyed : s.catalog.Keyed
  targets : ∀ {key place t}, s.catalog.entries.lookup key = some (place, t) →
    s.targets.get? place = some t
  registered : ∀ key place, (∃ t, s.catalog.entries.lookup key = some (place, t)) ↔ Registered log key place

theorem reflects_nil (hs : s.catalog = {}) : Reflects [] s where
  keyed := hs ▸ Target.Catalog.keyed_empty
  targets h := by
    rw [hs] at h
    cases h
  registered key place := by
    rw [hs]
    constructor
    · rintro ⟨t, hno⟩
      cases hno
    · exact fun hno => absurd hno not_since_nil

namespace Reflects

variable {log : List CatalogEvent}

/-- An event that neither registers nor unregisters, and leaves the catalog as it is. -/
theorem quiet (h : Reflects log s) {event : CatalogEvent} (hcatalog : s'.catalog = s.catalog)
    (htargets : ∀ {place t}, s.targets.get? place = some t → s'.targets.get? place = some t)
    (hregisters : ∀ key place, ¬ event.Registers key place) (hreplaces : ∀ key, ¬ event.Replaces key) :
    Reflects (log ++ [event]) s' where
  keyed := hcatalog ▸ h.keyed
  targets hfound := htargets (h.targets (hcatalog ▸ hfound))
  registered key place := by
    rw [hcatalog, h.registered, Registered, Registered, since_append_iff, or_iff_right (hregisters key place),
      and_iff_right (hreplaces key)]

theorem register (h : Reflects log s) (place : Nat) (replace : Bool) :
    Reflects
      (log ++ [(.register place replace, (s.perform (CatalogCall.register place replace).act).1)])
      (s.perform (CatalogCall.register place replace).act).2 := by
  cases ht : s.targets.get? place with
  | none =>
    rw [CatalogCall.act, target, perform_bind_of_error (perform_fetch_of_none ht)]
    exact h.quiet rfl id (fun _ _ => id) fun _ ⟨_, hno⟩ => hno
  | some t =>
    obtain ⟨journal, files, hregister⟩ := perform_registerTarget ht replace
    rw [CatalogCall.act, target, perform_bind_of_ok (perform_fetch_of_some ht), perform_map, hregister]
    cases hadded : (s.catalog.register place t replace).1 with
    | false =>
      exact h.quiet (Target.Catalog.register_of_false hadded) id (fun _ _ => id) fun _ ⟨_, hno⟩ => hno
    | true =>
      refine ⟨h.keyed.register place t replace, ?_, ?_⟩
      · intro key other u hfound
        rw [Target.Catalog.lookup_register hadded] at hfound
        split at hfound
        · obtain ⟨rfl, rfl⟩ := Prod.mk.inj (Option.some.inj hfound)
          exact ht
        · exact h.targets hfound
      · intro key other
        show (∃ u, (s.catalog.register place t replace).2.entries.lookup key = some (other, u)) ↔
          Registered (log ++ [(.register place replace, .ok (.registered t.identity true))]) key other
        rw [Target.Catalog.lookup_register hadded, registered_append_register]
        split
        · constructor
          · rintro ⟨u, hu⟩
            exact (Prod.mk.inj (Option.some.inj hu)).1.symm
          · rintro rfl
            exact ⟨t, rfl⟩
        · exact h.registered key other

theorem unregister (h : Reflects log s) (name : String) :
    Reflects (log ++ [(.unregister name, (s.perform (CatalogCall.unregister name).act).1)])
      (s.perform (CatalogCall.unregister name).act).2 := by
  refine ⟨h.keyed.unregister name, ?_, ?_⟩
  · intro key place t hfound
    have hfound : (s.catalog.unregister name).2.entries.lookup key = some (place, t) := hfound
    rw [Target.Catalog.lookup_unregister] at hfound
    split at hfound
    · cases hfound
    · exact h.targets hfound
  · intro key place
    show (∃ t, (s.catalog.unregister name).2.entries.lookup key = some (place, t)) ↔ _
    rw [Target.Catalog.lookup_unregister, registered_append_unregister]
    split
    · next hkey =>
      constructor
      · rintro ⟨t, hno⟩
        cases hno
      · rintro ⟨hne, -⟩
        exact absurd hkey hne
    · next hkey => rw [h.registered, and_iff_right hkey]

/-- Every call that is no bundle of others keeps the log in step with the session. -/
theorem step (h : Reflects log s) {call : CatalogCall} (hcall : call ≠ .builtin) :
    Reflects (log ++ [(call, (s.perform call.act).1)]) (s.perform call.act).2 := by
  have hno (key : String) : ¬ ∃ place : Nat, False := fun ⟨_, hno⟩ => hno
  cases call with
  | add t =>
    refine h.quiet rfl ?_ (fun _ _ => id) hno
    exact fun hplace => (Store.get?_add_of_lt _ _ (Store.lt_next_of_get? hplace)).trans hplace
  | register place replace => exact h.register place replace
  | unregister name => exact h.unregister name
  | find name =>
    rw [CatalogCall.act, perform_map, perform_findTarget]
    exact h.quiet rfl id (fun _ _ => id) hno
  | isRegistered name => exact h.quiet rfl id (fun _ _ => id) hno
  | names => exact h.quiet rfl id (fun _ _ => id) hno
  | describe =>
    rw [CatalogCall.act, perform_map, perform_describeTargets]
    exact h.quiet rfl id (fun _ _ => id) hno
  | builtin => exact absurd rfl hcall

theorem answered (h : Reflects log s) {calls : List CatalogCall} (hcalls : .builtin ∉ calls) :
    Reflects (log ++ s.answered calls) (s.afterCalls calls) := by
  induction calls generalizing log s with
  | nil =>
    rw [Session.answered, List.append_nil]
    exact h
  | cons call rest ih =>
    rw [List.mem_cons, not_or] at hcalls
    rw [Session.answered, List.append_cons]
    exact ih (h.step (Ne.symm hcalls.1)) hcalls.2

end Reflects

theorem builtin_notMem_parts (s : Session) (call : CatalogCall) : .builtin ∉ call.parts s := by
  cases call with
  | builtin =>
    rw [CatalogCall.parts]
    split <;> simp
  | _ => simp [CatalogCall.parts]

theorem reflects_catalogLog {log : List CatalogEvent} (h : Reflects log s) (calls : List CatalogCall) :
    Reflects (log ++ s.catalogLog calls) (s.afterCalls calls) := by
  induction calls generalizing log s with
  | nil =>
    rw [catalogLog, List.append_nil]
    exact h
  | cons call rest ih =>
    have hparts : Reflects (log ++ s.answered (call.parts s)) (s.perform call.act).2 := by
      rw [← afterCalls_parts]
      exact h.answered (builtin_notMem_parts s call)
    rw [catalogLog, ← List.append_assoc]
    exact ih hparts

/-! ## What is found -/

theorem isRegistered_iff (s : Session) (name : String) :
    s.catalog.isRegistered name = true ↔ ∃ place, (s.perform (findTarget name)).1 = .ok place := by
  rw [perform_findTarget, Target.Catalog.isRegistered, Target.Catalog.get]
  cases s.catalog.find? name with
  | none =>
    constructor
    · intro hno
      cases hno
    · rintro ⟨_, hno⟩
      cases hno
  | some e => exact ⟨fun _ => ⟨e.1, rfl⟩, fun _ => rfl⟩

theorem findTarget_of_find? {name : String} {e : Nat × Target} (h : s.catalog.find? name = some e) :
    (s.perform (findTarget name)).1 = .ok e.1 := by
  rw [perform_findTarget, Target.Catalog.get, h]
  rfl

namespace Reflects

variable {log : List CatalogEvent}

theorem findTarget_iff (h : Reflects log s) (name : String) (place : Nat) :
    (s.perform (findTarget name)).1 = .ok place ↔ Registered log (Identity.keyOf name) place := by
  rw [perform_findTarget, ← h.registered, Target.Catalog.get, Target.Catalog.find?]
  cases s.catalog.entries.lookup (Identity.keyOf name) with
  | none =>
    constructor
    · intro hno
      cases hno
    · rintro ⟨_, hno⟩
      cases hno
  | some e =>
    obtain ⟨p, t⟩ := e
    constructor
    · intro hok
      obtain rfl : p = place := Except.ok.inj hok
      exact ⟨t, rfl⟩
    · rintro ⟨u, hu⟩
      obtain ⟨rfl, -⟩ := Prod.mk.inj (Option.some.inj hu)
      rfl

/-- A listed target is the one at its place. -/
theorem get?_of_mem_listed (h : Reflects log s) {e : Nat × Target} (he : e ∈ s.catalog.listed) :
    s.targets.get? e.1 = some e.2 := by
  obtain ⟨name, hfind⟩ := h.keyed.mem_listed_iff.mp he
  exact h.targets hfind

/-- No place is listed twice, since the target at it has one name. -/
theorem nodup_listed (h : Reflects log s) : (s.catalog.listed.map (·.1)).Nodup := by
  have hnames : (s.catalog.listed.map (·.2.name)).Pairwise (· < ·) := by
    rw [h.keyed.map_name_listed]
    exact h.keyed.pairwise_names
  rw [List.pairwise_map] at hnames
  refine List.pairwise_map.mpr (hnames.imp_of_mem ?_)
  intro e f he hf hlt hplace
  have hsame : some e.2 = some f.2 := by
    rw [← h.get?_of_mem_listed he, ← h.get?_of_mem_listed hf, hplace]
  rw [Option.some.inj hsame] at hlt
  exact String.lt_irrefl _ hlt

theorem mem_listed_iff (h : Reflects log s) (place : Nat) :
    place ∈ s.catalog.listed.map (·.1) ↔ ∃ key, Registered log key place := by
  rw [List.mem_map]
  constructor
  · rintro ⟨⟨p, t⟩, he, rfl⟩
    obtain ⟨name, hfind⟩ := h.keyed.mem_listed_iff.mp he
    exact ⟨Identity.keyOf name, (h.registered _ _).mp ⟨t, hfind⟩⟩
  · rintro ⟨key, hregistered⟩
    obtain ⟨t, hlookup⟩ := (h.registered key place).mpr hregistered
    have hkey : key = t.identity.key := h.keyed.key _ (Entries.mem_of_lookup hlookup)
    refine ⟨(place, t), h.keyed.mem_listed_iff.mpr ⟨t.name, ?_⟩, rfl⟩
    rw [hkey] at hlookup
    exact hlookup

end Reflects

/-! ## Spellings of a name -/

/-- Names with one key are found alike, and targets with such names are registered alike. -/
theorem interchangeable_of_keyOf {m n : String} (h : Identity.keyOf m = Identity.keyOf n) (s : Session) :
    s.catalog.isRegistered m = s.catalog.isRegistered n ∧
    (∀ place, (s.perform (findTarget m)).1 = .ok place ↔ (s.perform (findTarget n)).1 = .ok place) ∧
    s.perform (unregister m) = s.perform (unregister n) ∧
    ∀ p q t u replace, s.targets.get? p = some t → s.targets.get? q = some u → t.name = m → u.name = n →
      (s.perform (register p replace)).1 = (s.perform (register q replace)).1 ∧
      ∀ name, (s.perform (register p replace)).2.catalog.isRegistered name =
        (s.perform (register q replace)).2.catalog.isRegistered name := by
  refine ⟨s.catalog.isRegistered_congr h, fun place => ?_, ?_, ?_⟩
  · rw [perform_findTarget, perform_findTarget, Target.Catalog.get, Target.Catalog.get,
      s.catalog.find?_congr h]
    cases s.catalog.find? n with
    | none =>
      -- the faults differ in the name that was asked for, but neither is a target
      constructor
      · intro hno
        cases hno
      · intro hno
        cases hno
    | some e => exact Iff.rfl
  · rw [perform_unregister, perform_unregister, s.catalog.unregister_congr h]
  · rintro p q t u replace ht hu rfl rfl
    obtain ⟨_, _, hp⟩ := perform_registerTarget ht replace
    obtain ⟨_, _, hq⟩ := perform_registerTarget hu replace
    obtain ⟨hadded, hregistered⟩ := s.catalog.register_congr h p q replace
    rw [hp, hq]
    exact ⟨congrArg Except.ok hadded, hregistered⟩

/-! ## Main statement -/

/-- After any calls, a name leads to the target that was last registered under its key and not unregistered
since, and if there is none, the answer names all that there are. The registered targets, each once, are listed
in strictly ascending order of the names they declare; the name and the key of each lead to it, and each is
described. Names that differ in the case of ASCII letters only are interchangeable. -/
theorem findTarget_iff_registered (hs : s.catalog = {}) (calls : List CatalogCall) :
    let log := s.catalogLog calls
    let s' := s.afterCalls calls
    (∀ name place,
      (s'.perform (findTarget name)).1 = .ok place ↔ Registered log (Identity.keyOf name) place) ∧
    (∀ name, (∀ place, ¬ Registered log (Identity.keyOf name) place) →
      (s'.perform (findTarget name)).1 = .error (.unknownTarget name s'.catalog.names)) ∧
    (∀ name, s'.catalog.isRegistered name = true ↔ ∃ place, (s'.perform (findTarget name)).1 = .ok place) ∧
    (∀ place replace s'', s'.perform (register place replace) = (.ok false, s'') →
      s''.catalog = s'.catalog ∧ s''.targets = s'.targets) ∧
    (∃ listed : List (Nat × Target),
      (listed.map (·.1)).Nodup ∧
      (∀ place, place ∈ listed.map (·.1) ↔ ∃ key, Registered log key place) ∧
      (∀ e ∈ listed, s'.targets.get? e.1 = some e.2 ∧
        (s'.perform (findTarget e.2.name)).1 = .ok e.1 ∧
        (s'.perform (findTarget e.2.identity.key)).1 = .ok e.1) ∧
      s'.catalog.names = listed.map (·.2.name) ∧ s'.catalog.names.Pairwise (· < ·) ∧
      (s'.perform describeTargets).1 = .ok (listed.map (·.2.describe))) ∧
    ∀ m n, Text.Alike m n →
      s'.catalog.isRegistered m = s'.catalog.isRegistered n ∧
      (∀ place, (s'.perform (findTarget m)).1 = .ok place ↔ (s'.perform (findTarget n)).1 = .ok place) ∧
      s'.perform (unregister m) = s'.perform (unregister n) ∧
      ∀ p q t u replace, s'.targets.get? p = some t → s'.targets.get? q = some u → t.name = m → u.name = n →
        (s'.perform (register p replace)).1 = (s'.perform (register q replace)).1 ∧
        ∀ name, (s'.perform (register p replace)).2.catalog.isRegistered name =
          (s'.perform (register q replace)).2.catalog.isRegistered name := by
  intro log s'
  -- one invariant ties the catalog to the calls, and all parts but the last are read off it
  have h : Reflects log s' := reflects_catalogLog (reflects_nil hs) calls
  refine ⟨h.findTarget_iff, ?_, isRegistered_iff s', ?_, ?_, ?_⟩
  · intro name hno
    rw [perform_findTarget, Target.Catalog.get]
    cases hfind : s'.catalog.find? name with
    | none => rfl
    | some e => exact absurd ((h.findTarget_iff name e.1).mp (findTarget_of_find? hfind)) (hno e.1)
  · intro place replace s'' hrefused
    cases ht : s'.targets.get? place with
    | none =>
      rw [register, target, perform_bind_of_error (perform_fetch_of_none ht)] at hrefused
      cases hrefused
    | some t =>
      obtain ⟨journal, files, hregister⟩ := perform_registerTarget ht replace
      rw [hregister] at hrefused
      obtain ⟨hanswer, rfl⟩ := Prod.mk.inj hrefused
      exact ⟨Target.Catalog.register_of_false (Except.ok.inj hanswer), rfl⟩
  · refine ⟨s'.catalog.listed, h.nodup_listed, h.mem_listed_iff, ?_, h.keyed.map_name_listed.symm,
      h.keyed.pairwise_names, ?_⟩
    · intro e he
      obtain ⟨name, hfind⟩ := h.keyed.mem_listed_iff.mp he
      exact ⟨h.get?_of_mem_listed he, findTarget_of_find? (h.keyed.find?_name hfind),
        findTarget_of_find? (h.keyed.find?_key hfind)⟩
    · rw [perform_describeTargets]
      exact h.keyed.describe_eq
  · exact fun m n hmn => interchangeable_of_keyOf (Text.lower_eq_of_alike hmn) s'

theorem catalogLog_append (s : Session) (calls more : List CatalogCall) :
    s.catalogLog (calls ++ more) = s.catalogLog calls ++ (s.afterCalls calls).catalogLog more := by
  induction calls generalizing s with
  | nil => rfl
  | cons call rest ih =>
    rw [List.cons_append, catalogLog, ih, ← List.append_assoc]
    rfl

/-- A target that is registered in place of any other is registered afterwards. -/
theorem registered_of_register {calls : List CatalogCall} {place : Nat} {t : Target}
    (ht : (s.afterCalls calls).targets.get? place = some t) :
    Registered (s.catalogLog (calls ++ [.register place true])) t.identity.key place := by
  obtain ⟨journal, files, hregister⟩ := perform_registerTarget ht true
  have hanswer : ((s.afterCalls calls).perform (CatalogCall.register place true).act).1 =
      .ok (.registered t.identity true) := by
    rw [CatalogCall.act, target, perform_bind_of_ok (perform_fetch_of_some ht), perform_map, hregister,
      Target.Catalog.register_fst, Bool.not_true, Bool.and_false]
    rfl
  have hlast : (s.afterCalls calls).catalogLog [.register place true] =
      [(.register place true, .ok (.registered t.identity true))] := by
    rw [← hanswer]
    rfl
  rw [catalogLog_append, hlast, registered_append_register, if_pos rfl]

/-- The PHP target of the library gives way to one with its name in capitals, which then is found under every
spelling. -/
theorem findTarget_iff_registered_php :
    let s : Session := { initial with targets := {}, catalog := {} }
    let shouting : Target := { Target.Php.target with identity := ⟨"PHP", "5", by decide, by decide⟩ }
    let calls : List CatalogCall := [.builtin, .add shouting, .register 1 true]
    s.catalog = {} ∧ Registered (s.catalogLog calls) (Identity.keyOf "pHp") 1 ∧
      ((s.afterCalls calls).perform (findTarget "pHp")).1 = .ok 1 := by
  intro s shouting calls
  have hmade : (s.afterCalls [.builtin, .add shouting]).targets.get? 1 = some shouting := rfl
  have hkey : shouting.identity.key = Identity.keyOf "pHp" := by decide +kernel
  have hregistered : Registered (s.catalogLog calls) (Identity.keyOf "pHp") 1 :=
    hkey ▸ registered_of_register hmade
  exact ⟨rfl, hregistered, ((findTarget_iff_registered rfl calls).1 "pHp" 1).mpr hregistered⟩

end Emission.Session
