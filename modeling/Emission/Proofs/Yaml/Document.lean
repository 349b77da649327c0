import Emission.Proofs.Yaml.Blocks
import Emission.Yaml.Node

/-!
# Documents in YAML

A dictionary of nothing, truth values, texts and such dictionaries is read back from what it is written as. Main
statement: `read?_write`. The tokens give the tree of the dictionary whatever they spell; only its value depends on
how the texts were written.
-/

namespace Emission.Yaml

open Json (Plain PlainEntries)

variable {fuel : Nat} {v : Value} {es : List (Value × Value)}

/-! ## Trees -/

def scalarNode (v : Value) : Node := .scalar .none (spelling v).1 (spelling v).2

mutual

/-- The tree of a value. -/
def nodeOf : Value → Node
  | .dict es => .mapping .none (entryNodes es)
  | v => scalarNode v

def entryNodes : List (Value × Value) → List (Node × Node)
  | [] => []
  | (k, v) :: rest => (scalarNode k, nodeOf v) :: entryNodes rest

end

theorem scalar_or_dict (v : Value) :
    (tokensOf v = [scalarToken v] ∧ nodeOf v = scalarNode v) ∨ ∃ es, v = .dict es := by
  cases v with
  | dict es => exact .inr ⟨es, rfl⟩
  | _ => exact .inl ⟨rfl, rfl⟩

theorem endsEntry_tokensOf (v : Value) (rest : List Token) : Node.endsEntry (tokensOf v ++ rest) = false := by
  rcases scalar_or_dict v with ⟨htokens, -⟩ | ⟨es, rfl⟩
  · rw [htokens]
    rfl
  · rfl

namespace Node

variable {forms : List (String × String)} {ts rest after : List Token} {k n : Node} {ns : List (Node × Node)}

theorem read?_scalarToken (v : Value) (loose : Bool) (rest : List Token) (fuel : Nat) :
    read? forms (fuel + 2) (.block loose) (scalarToken v :: rest) = some (scalarNode v, rest) := by
  cases loose <;> rfl

theorem read?_mapping (loose : Bool) (h : entries? forms fuel ts = some (ns, rest)) :
    read? forms (fuel + 2) (.block loose) (.mappingStart :: ts) = some (.mapping .none ns, rest) := by
  have hcontent : content? forms (fuel + 1) (.block loose) {} .none (.mappingStart :: ts) =
      some (.mapping .none ns, rest) := by
    cases loose <;> exact congrArg (Option.map _) h
  exact congrArg (Option.map _) hcontent

theorem entries?_key (hends : endsEntry ts = false) (hkey : read? forms fuel (.block true) ts = some (k, rest)) :
    entries? forms (fuel + 1) (.key :: ts) = entryAfter? forms fuel k rest := by
  simp only [entries?, hends, hkey, Bool.false_eq_true, if_false]

theorem entryAfter?_value (hends : endsEntry ts = false) (hvalue : read? forms fuel (.block true) ts = some (n, rest))
    (hmore : entries? forms fuel rest = some (ns, after)) :
    entryAfter? forms (fuel + 1) k (.value :: ts) = some ((k, n) :: ns, after) := by
  simp only [entryAfter?, hends, hvalue, hmore, Bool.false_eq_true, if_false, Option.map_some]

mutual

/-- The tokens of a value are read as its tree, whatever follows them. -/
theorem read?_tokensOf (v : Value) (fuel : Nat) (loose : Bool) (rest : List Token)
    (hfuel : 2 * (tokensOf v).length ≤ fuel) :
    read? forms fuel (.block loose) (tokensOf v ++ rest) = some (nodeOf v, rest) := by
  rcases scalar_or_dict v with ⟨htokens, hnode⟩ | ⟨es, rfl⟩
  · rw [htokens] at hfuel ⊢
    obtain ⟨fuel, rfl⟩ := Nat.exists_eq_add_of_le' hfuel
    rw [hnode]
    exact read?_scalarToken v loose rest fuel
  · have hlength : (tokensOf (.dict es)).length = (entryTokens es).length + 2 := by
      rw [tokensOf, List.length_cons, List.length_append, List.length_singleton]
    have htokens : tokensOf (.dict es) ++ rest = .mappingStart :: (entryTokens es ++ .blockEnd :: rest) := by
      rw [tokensOf, List.cons_append, List.append_assoc, List.singleton_append]
    obtain ⟨fuel, rfl⟩ : ∃ n, fuel = n + 2 := ⟨fuel - 2, by omega⟩
    rw [htokens]
    exact read?_mapping loose (entries?_entryTokens es fuel rest (by omega))

theorem entries?_entryTokens (es : List (Value × Value)) (fuel : Nat) (rest : List Token)
    (hfuel : 2 * (entryTokens es).length + 2 ≤ fuel) :
    entries? forms fuel (entryTokens es ++ .blockEnd :: rest) = some (entryNodes es, rest) := by
  match es with
  | [] =>
    obtain ⟨fuel, rfl⟩ := Nat.exists_eq_add_of_le' hfuel
    rfl
  | (k, v) :: es =>
    have hlength : (entryTokens ((k, v) :: es)).length = (tokensOf v).length + (entryTokens es).length + 3 := by
      rw [entryTokens, List.length_cons, List.length_cons, List.length_cons, List.length_append]
    have htokens : entryTokens ((k, v) :: es) ++ .blockEnd :: rest =
        .key :: scalarToken k :: .value :: (tokensOf v ++ (entryTokens es ++ .blockEnd :: rest)) := by
      simp only [entryTokens, List.cons_append, List.append_assoc]
    -- a step leads to the key, a second one to the value, and each of the two takes at least two more
    obtain ⟨fuel, rfl⟩ : ∃ n, fuel = n + 4 := ⟨fuel - 4, by omega⟩
    rw [htokens, entries?_key rfl (read?_scalarToken k true _ _)]
    exact entryAfter?_value (endsEntry_tokensOf v _) (read?_tokensOf v _ true _ (by omega))
      (entries?_entryTokens es _ rest (by omega))

end

mutual

/-- There are no aliases in the tree of a value. -/
theorem resolved?_nodeOf (seen : Anchors) (v : Value) : (nodeOf v).resolved? seen = some (nodeOf v, seen) := by
  rcases scalar_or_dict v with ⟨-, hnode⟩ | ⟨es, rfl⟩
  · rw [hnode]
    rfl
  · rw [nodeOf, resolved?, entriesResolved?_entryNodes seen es]
    rfl

theorem entriesResolved?_entryNodes (seen : Anchors) (es : List (Value × Value)) :
    entriesResolved? seen (entryNodes es) = some (entryNodes es, seen) := by
  match es with
  | [] => rfl
  | (k, v) :: es =>
    have hkey : (scalarNode k).resolved? seen = some (scalarNode k, seen) := rfl
    rw [entryNodes, entriesResolved?, hkey]
    simp only [resolved?_nodeOf seen v, entriesResolved?_entryNodes seen es, Option.map_some]

end

theorem ofTokens?_tokensOf (es : List (Value × Value)) :
    ofTokens? (tokensOf (.dict es)) = some (some (nodeOf (.dict es))) := by
  have hread : read? knownForms (8 * (tokensOf (.dict es)).length + 8) (.block false) (tokensOf (.dict es) ++ []) =
      some (nodeOf (.dict es), []) := read?_tokensOf (.dict es) _ false [] (by omega)
  have hstart : ¬(Token.mappingStart = .documentStart ∨ isDirective .mappingStart = true) := by decide
  rw [List.append_nil] at hread
  rw [tokensOf] at hread ⊢
  simp only [ofTokens?, if_neg hstart, hread]
  rfl

/-! ## Values -/

/-- A text is read as a text, whether or not it stands between quotes. -/
theorem scalarTag_text (s : String) :
    scalarTag .none (spelling (.text s)).1 (spelling (.text s)).2 = .text := by
  have hspelling : spelling (.text s) = (s, decide (styleOf s.toList = .plain)) := rfl
  rw [hspelling, scalarTag]
  by_cases hstyle : styleOf s.toList = .plain
  · rw [decide_eq_true hstyle, if_pos rfl]
    exact (ofPlain_of_styleOf hstyle).1
  · rw [decide_eq_false hstyle]
    rfl

theorem value?_text (s : String) : (scalarNode (.text s)).value? = some (.text s) := by
  rw [scalarNode, value?, scalarTag_text]
  rfl

theorem pairs?_text (s : String) (hvalue : n.value? = some v) (hmore : pairs? ns = some ([], es)) :
    pairs? ((scalarNode (.text s), n) :: ns) = some ([], (.text s, v) :: es) := by
  have hmerge : isMergeKey (scalarNode (.text s)) = false := by
    rw [scalarNode, isMergeKey, scalarTag_text]
    rfl
  have hequals : equalsKey? (scalarNode (.text s)) = none := by
    rw [scalarNode, equalsKey?, scalarTag_text]
    rfl
  simp only [pairs?, hmerge, hequals, value?_text, hvalue, hmore, Option.none_or, Bool.false_eq_true, if_false]

theorem dictOf?_of_plain (h : Plain (.dict es)) : dictOf? es = some (.dict es) := by
  have hall : (es.all fun p => p.1.unkeyable?.isNone) = true := by
    refine List.all_eq_true.mpr fun e he => ?_
    obtain ⟨s, hs⟩ := Json.text_of_plainEntries h.2 e he
    rw [hs]
    rfl
  rw [dictOf?, hall, if_pos rfl, Json.dictOf_of_plain h]

mutual

/-- The value of the tree of a plain value is this value. -/
theorem value?_nodeOf (v : Value) (hv : Plain v) : (nodeOf v).value? = some v := by
  match v, hv with
  | .none, _ => rfl
  | .bool true, _ => rfl
  | .bool false, _ => rfl
  | .text s, _ => exact value?_text s
  | .dict es, hv =>
    rw [nodeOf, value?]
    simp only [pairs?_entryNodes es hv.2]
    exact dictOf?_of_plain hv

theorem pairs?_entryNodes (es : List (Value × Value)) (hes : PlainEntries es) :
    pairs? (entryNodes es) = some ([], es) := by
  match es, hes with
  | [], _ => rfl
  | (k, v) :: es, ⟨⟨s, hk⟩, hv, hmore⟩ =>
    subst hk
    exact pairs?_text s (value?_nodeOf v hv) (pairs?_entryNodes es hmore)

end

end Node

/-! ## Whole texts -/

/-- A filled dictionary that fits where nothing is indented. -/
def IsBlock : Value → Prop
  | .dict es => es ≠ [] ∧ EntriesFit 0 es
  | _ => False

/-- A plain value that is a block is read back from what it is written as. -/
theorem read?_write (hplain : Plain v) (hv : IsBlock v) : read? (write v) = some v := by
  match v, hv with
  | .dict es, ⟨hne, hfits⟩ =>
    simp only [read?, scan?_write hne hfits, Option.bind_some, Node.ofTokens?_tokensOf, Node.resolved?_nodeOf,
      Node.value?_nodeOf _ hplain]

/-- A block has no carriage returns. -/
theorem not_mem_write (hv : IsBlock v) : '\r' ∉ (write v).toList := by
  match v, hv with
  | .dict es, ⟨hne, hfits⟩ => exact fun h => absurd (inDocument_write hne hfits _ h) (by decide)

end Emission.Yaml
