import Emission.Proofs.Text.Order
import Emission.Vocabulary
import Mathlib.Data.Finset.Card

/-!
# Questions about reserved words

A vocabulary builds the set of its words when a question first needs it. Apart from the two questions that are about
this very thing, the answers are those for the union of its two lists, whatever was asked before. Main statement:
`ask_after_right`, which also says when the set is built and that this happens once.
-/

namespace Emission.Vocabulary

variable {v : Vocabulary} {qs : List Query}

/-! ## The set -/

theorem pairwise_lt_union (v : Vocabulary) : v.union.Pairwise (· < ·) := Text.pairwise_lt_sortedSet _

/-- Words that are in both lists or more than once in one of them count once. -/
theorem length_union (v : Vocabulary) : v.union.length = (v.keywords ++ v.internal).toFinset.card := by
  have hnodup : v.union.Nodup := v.pairwise_lt_union.imp String.ne_of_lt
  have hsame : v.union.toFinset = (v.keywords ++ v.internal).toFinset := by
    ext w
    rw [List.mem_toFinset, List.mem_toFinset, union, Text.mem_sortedSet]
  rw [← hsame, List.toFinset_card_of_nodup hnodup]

theorem describe_of_built {built : Option (List String)} (h : v.built = built) :
    v.describe = "ReservedWordSet(" ++
      (built.elim "unpopulated" fun ws => toString ws.length ++ " words") ++ ")" := by
  obtain ⟨keywords, internal, kept⟩ := v
  subst h
  cases kept <;> rfl

/-! ## Questions one after the other -/

/-- The vocabulary after some questions. -/
def after (v : Vocabulary) (qs : List Query) : Vocabulary := qs.foldl (fun v q => (v.ask q).2) v

/-- How often the set is built while questions are answered. -/
def builds (v : Vocabulary) : List Query → Nat
  | [] => 0
  | q :: rest => (if q.needsSet && v.obtain.2 then 1 else 0) + (v.ask q).2.builds rest

theorem ask_snd (v : Vocabulary) (q : Query) : (v.ask q).2 = if q.needsSet then v.populate else v := rfl

theorem obtain_of_some {ws : List String} (h : v.built = some ws) : v.obtain = (ws, false) := by
  rw [obtain, h]

theorem obtain_of_none (h : v.built = none) : v.obtain = (v.union, true) := by
  rw [obtain, h]

theorem built_populate (v : Vocabulary) : v.populate.built = some v.words := rfl

theorem words_populate (v : Vocabulary) : v.populate.words = v.words := rfl

/-- A question is answered from the state in which its set is built if it needs one. -/
theorem ask_fst (v : Vocabulary) (q : Query) :
    (v.ask q).1 = (if q.needsSet then v.populate else v).answer q := rfl

theorem ask_fst_of_needsSet {q : Query} (h : q.needsSet = true) : (v.ask q).1 = v.populate.answer q := by
  rw [ask_fst, if_pos h]

theorem ask_fst_of_not {q : Query} (h : q.needsSet = false) : (v.ask q).1 = v.answer q := by
  rw [ask_fst, h, if_neg Bool.false_ne_true]

/-- A set that is kept is not built again, whatever words are in it. -/
theorem built_ask_of_some {ws : List String} (h : v.built = some ws) (q : Query) :
    (v.ask q).2.built = some ws := by
  rw [ask_snd]
  split
  · rw [populate, words, obtain_of_some h]
  · exact h

/-- After some questions a vocabulary is as it was, or its set is built if one of them needed it. -/
theorem after_eq (v : Vocabulary) (qs : List Query) :
    v.after qs = if qs.any Query.needsSet then v.populate else v := by
  induction qs generalizing v with
  | nil => rfl
  | cons q rest ih =>
    show (v.ask q).2.after rest = _
    rw [ih, ask_snd, List.any_cons]
    -- building a set that is kept changes nothing
    have hkept : v.populate.populate = v.populate := rfl
    cases q.needsSet <;> cases rest.any Query.needsSet <;> simp [hkept]

theorem builds_of_some {ws : List String} (h : v.built = some ws) (qs : List Query) : v.builds qs = 0 := by
  induction qs generalizing v with
  | nil => rfl
  | cons q rest ih =>
    rw [builds, obtain_of_some h, Bool.and_false, if_neg Bool.false_ne_true, ih (built_ask_of_some h q)]

/-- The first question that needs the set builds it, and no later one does. -/
theorem builds_of_none (h : v.built = none) (qs : List Query) :
    v.builds qs = if qs.any Query.needsSet then 1 else 0 := by
  induction qs generalizing v with
  | nil => rfl
  | cons q rest ih =>
    rw [builds, ask_snd, List.any_cons, obtain_of_none h, Bool.and_true]
    cases hq : q.needsSet with
    | false => simp [ih h]
    | true =>
      simp [builds_of_some v.built_populate]

/-! ## Right answers -/

/-- The right answer to a question about the union of two lists of words; `asked` says whether a question before it
needed the set of the words. -/
inductive Right (keywords internal : List String) (asked : Bool) : Query → Answer → Prop
  | contains {word : String} {b : Bool} (iff_mem : b = true ↔ word ∈ keywords ∨ word ∈ internal) :
    Right keywords internal asked (.contains word) (.truth b)
  | size : Right keywords internal asked .size (.number (keywords ++ internal).toFinset.card)
  /-- In ascending order of their code points, so each word comes once. -/
  | words {ws : List String} (ascending : ws.Pairwise (· < ·))
      (mem_iff : ∀ w, w ∈ ws ↔ w ∈ keywords ∨ w ∈ internal)
      (length_eq : ws.length = (keywords ++ internal).toFinset.card) :
    Right keywords internal asked .words (.words ws)
  | keptSet : Right keywords internal asked .keptSet (.truth true)
  | populated : Right keywords internal asked .populated (.truth asked)
  | describe :
    Right keywords internal asked .describe
      (.text ("ReservedWordSet(" ++
        (if asked then toString (keywords ++ internal).toFinset.card ++ " words" else "unpopulated") ++ ")"))
  | keywords : Right keywords internal asked .keywords (.words keywords)
  | internal : Right keywords internal asked .internal (.words internal)

/-- A vocabulary whose set was built if it was asked for answers rightly. -/
theorem right_ask (keywords internal : List String) {asked : Bool}
    (hv : v = if asked then (ofWords keywords internal).populate else ofWords keywords internal) (q : Query) :
    Right keywords internal asked q (v.ask q).1 := by
  have hwords : v.words = (ofWords keywords internal).union := by
    subst hv
    cases asked <;> rfl
  have hlength : v.words.length = (keywords ++ internal).toFinset.card :=
    hwords ▸ length_union (ofWords keywords internal)
  have hkept : v.built = if asked then some v.words else none := by
    subst hv
    cases asked <;> rfl
  have hlists : v.keywords = keywords ∧ v.internal = internal := by
    subst hv
    cases asked <;> exact ⟨rfl, rfl⟩
  cases q with
  | contains word =>
    rw [ask_fst_of_needsSet rfl]
    refine .contains ?_
    rw [List.contains_iff_mem, words_populate, hwords, mem_union]
    rfl
  | size =>
    rw [ask_fst_of_needsSet rfl, answer, words_populate, hlength]
    exact .size
  | words =>
    rw [ask_fst_of_needsSet rfl, answer, words_populate]
    refine .words ?_ (fun w => ?_) hlength
    · exact hwords ▸ pairwise_lt_union (ofWords keywords internal)
    · rw [hwords, mem_union]
      rfl
  | keptSet =>
    -- the question has built the set that it is about
    rw [ask_fst_of_needsSet rfl, answer, words_populate, built_populate, beq_self_eq_true]
    exact .keptSet
  | populated =>
    rw [ask_fst_of_not rfl, answer, populated, hkept]
    cases asked <;> exact .populated
  | describe =>
    rw [ask_fst_of_not rfl, answer, describe_of_built hkept]
    cases asked with
    | false => exact .describe
    | true =>
      rw [if_pos rfl, Option.elim_some, hlength]
      exact .describe
  | keywords =>
    rw [ask_fst_of_not rfl, answer, hlists.1]
    exact .keywords
  | internal =>
    rw [ask_fst_of_not rfl, answer, hlists.2]
    exact .internal

/-- However often and whatever a vocabulary of two lists is asked, a question is answered rightly, and as if the set
had been built at once unless it is about whether the set is built. The set is built as soon as a question needed it
and not before, which happens once: a set that is kept is never replaced. -/
theorem ask_after_right (keywords internal : List String) (before : List Query) (q : Query) :
    let v := (ofWords keywords internal).after before
    let asked := before.any Query.needsSet
    Right keywords internal asked q (v.ask q).1 ∧
      ((v.ask q).1 = ((ofWords keywords internal).populate.ask q).1 ∨ q = .populated ∨ q = .describe) ∧
      v.populated = asked ∧ (v.ask q).2.populated = (asked || q.needsSet) ∧
      (ofWords keywords internal).builds before = (if asked then 1 else 0) ∧
      ∀ kept, (({ v with built := some kept } : Vocabulary).ask q).2.built = some kept := by
  intro v asked
  have hv : v = if asked then (ofWords keywords internal).populate else ofWords keywords internal :=
    after_eq _ before
  refine ⟨?_, ?_, ?_, ?_, builds_of_none rfl before, fun kept => built_ask_of_some rfl q⟩
  · exact right_ask keywords internal hv q
  · rw [ask_fst, ask_fst, hv]
    cases q with
    | populated => exact .inr (.inl rfl)
    | describe => exact .inr (.inr rfl)
    | _ => cases asked <;> exact .inl rfl
  · rw [hv]
    cases asked <;> rfl
  · rw [ask_snd, hv]
    cases asked <;> cases q <;> rfl

/-- Showing a vocabulary and its lists does not build its set. -/
example : (((ofWords ["new", "class", "new"] ["class"]).after [.describe, .keywords]).ask .describe).1 =
    .text "ReservedWordSet(unpopulated)" := by
  decide

end Emission.Vocabulary
