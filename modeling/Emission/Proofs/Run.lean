import Emission.Proofs.Fault
import Emission.Run

/-!
# Making runs

When a run can be made, at once or from a draft, and what it is then. Main statement: `Draft.build_eq_make`, a
draft comes to the same as a run that is made at once of what the draft holds.
-/

namespace Emission.Run

variable {r : Run}

theorem make_eq_ok_iff {grammar : String} {options : Option Options} {metadata : List (Value × Value)}
    {cache : Nat} :
    make grammar options metadata cache = .ok r ↔
      grammar ≠ "" ∧ (options.getD {}).validate = .ok () ∧
        r = ⟨grammar, options.getD {}, metadata, cache⟩ := by
  unfold make
  split
  · next hempty =>
    constructor
    · intro hno
      cases hno
    · exact fun h => absurd hempty h.1
  · next hne =>
    simp only [pure_eq_ok, bind_eq_ok_iff, Except.ok.injEq]
    constructor
    · rintro ⟨_, hvalid, rfl⟩
      exact ⟨hne, hvalid, rfl⟩
    · rintro ⟨-, hvalid, rfl⟩
      exact ⟨(), hvalid, rfl⟩

theorem Draft.build_eq_ok_iff {d : Draft} {fresh : Nat} :
    d.build fresh = .ok r ↔
      d.grammar.getD "" ≠ "" ∧ (d.options.getD {}).validate = .ok () ∧
        r = ⟨d.grammar.getD "", d.options.getD {}, d.metadata, d.cache.getD fresh⟩ := by
  unfold build
  dsimp only
  split
  · next hempty =>
    constructor
    · intro hno
      cases hno
    · exact fun h => absurd hempty h.1
  · next hne =>
    simp only [pure_eq_ok, bind_eq_ok_iff, Except.ok.injEq]
    constructor
    · rintro ⟨_, hvalid, rfl⟩
      exact ⟨hne, hvalid, rfl⟩
    · rintro ⟨-, hvalid, rfl⟩
      exact ⟨(), hvalid, rfl⟩

/-! ## What runs are refused for -/

/-- A run for a named grammar can be made if its options are valid. -/
theorem make_of_ne {grammar : String} (h : grammar ≠ "") (options : Option Options)
    (metadata : List (Value × Value)) (cache : Nat) :
    make grammar options metadata cache =
      (options.getD {}).validate.map fun _ => ⟨grammar, options.getD {}, metadata, cache⟩ := by
  unfold make
  rw [if_neg h]
  dsimp only
  cases (options.getD {}).validate <;> rfl

/-- The cache of a run makes no difference to whether it can be made. -/
theorem make_eq_map (grammar : String) (options : Option Options) (metadata : List (Value × Value))
    (cache other : Nat) :
    make grammar options metadata other =
      (make grammar options metadata cache).map fun r => { r with cache := other } := by
  by_cases hgrammar : grammar = ""
  · rw [hgrammar]
    rfl
  · rw [make_of_ne hgrammar, make_of_ne hgrammar]
    cases (options.getD {}).validate <;> rfl

/-- What options are refused for. -/
theorem mem_of_validate {o : Options} {e : Fault} (h : o.validate = .error e) :
    e ∈ [Fault.emptyDefaultTarget, .emptyEscapeMode, .emptyTemplateDir] := by
  unfold Options.validate at h
  split at h
  · obtain rfl := Except.error.inj h
    decide
  · split at h
    · obtain rfl := Except.error.inj h
      decide
    · split at h
      · obtain rfl := Except.error.inj h
        decide
      · cases h

namespace Draft

/-- How a draft puts what its run is refused for: it has no name of a grammar yet. -/
def refusal : Fault → Fault
  | .emptyGrammar => .grammarRequired
  | e => e

/-- What a draft is refused for. -/
def refusals : List Fault := [.grammarRequired, .emptyDefaultTarget, .emptyEscapeMode, .emptyTemplateDir]

/-- A draft comes to the same as a run that is made at once of what the draft holds. -/
theorem build_eq_make (d : Draft) (fresh : Nat) :
    d.build fresh =
      (make (d.grammar.getD "") d.options d.metadata (d.cache.getD fresh)).mapError refusal := by
  unfold build
  dsimp only
  by_cases hgrammar : d.grammar.getD "" = ""
  · rw [if_pos hgrammar, hgrammar]
    rfl
  · rw [if_neg hgrammar, make_of_ne hgrammar]
    cases hvalid : (d.options.getD {}).validate with
    | ok _ => rfl
    | error e =>
      have hmem := mem_of_validate hvalid
      simp only [List.mem_cons, List.not_mem_nil, or_false] at hmem
      rcases hmem with rfl | rfl | rfl <;> rfl

theorem mem_refusals_of_build {d : Draft} {fresh : Nat} {e : Fault} (h : d.build fresh = .error e) :
    e ∈ refusals := by
  unfold build at h
  dsimp only at h
  split at h
  · obtain rfl := Except.error.inj h
    decide
  · cases hvalid : (d.options.getD {}).validate with
    | ok _ =>
      rw [hvalid] at h
      cases h
    | error e' =>
      rw [hvalid] at h
      obtain rfl := Except.error.inj h
      exact List.mem_cons_of_mem _ (mem_of_validate hvalid)

end Draft

end Emission.Run
