import Emission.Proofs.Yaml.Scanner
import Emission.Yaml.Write

/-!
# Scanning blocks

A dictionary is written as a block, each entry on a line of its own and dictionaries inside it as blocks that are
indented further. Main statement: `scan?_write`, the tokens of what a dictionary is written as. The scanner passes
a value behind its colon (`PassesValue`) and the entries of a block (`PassesEntries`) with any text behind them, if
that starts a line which is indented no more than the block.
-/

namespace Emission.Yaml

open Json (Printable InDocument)

variable {cs rest : List Char} {i l col column indent outdent : Nat} {s : String} {v : Value}
  {e : Value × Value} {es : List (Value × Value)} {outer : List Int} {ts : List Token}

/-! ## Values that fit -/

/-- A text that is written without quotes and is no longer than a key on one line may be. -/
def IsWord (s : String) : Prop := styleOf s.toList = .plain ∧ s.length + 5 < 128

instance (s : String) : Decidable (IsWord s) := inferInstanceAs (Decidable (_ ∧ _))

mutual

/-- A value in a block that is indented so far: nothing, a truth value, a text, or a filled dictionary with words as
keys. The lines of a long text are indented by less than the width that is filled. -/
def Fits (indent : Nat) : Value → Prop
  | .none | .bool _ | .text _ => indent + 2 < bestWidth
  | .dict es => es ≠ [] ∧ EntriesFit (indent + 2) es
  | _ => False

def EntriesFit (indent : Nat) : List (Value × Value) → Prop
  | [] => True
  | (k, v) :: rest => (∃ s, k = .text s ∧ IsWord s) ∧ Fits indent v ∧ EntriesFit indent rest

end

/-- The text of a scalar and whether it stands without quotes. -/
def spelling : Value → String × Bool
  | .none => ("null", true)
  | .bool b => (if b then "true" else "false", true)
  | v => (v.display, styleOf v.display.toList = .plain)

def scalarToken (v : Value) : Token := .scalar (spelling v).1 (spelling v).2

mutual

/-- The tokens of a value. -/
def tokensOf : Value → List Token
  | .dict es => .mappingStart :: (entryTokens es ++ [.blockEnd])
  | v => [scalarToken v]

def entryTokens : List (Value × Value) → List Token
  | [] => []
  | (k, v) :: rest => .key :: scalarToken k :: .value :: (tokensOf v ++ entryTokens rest)

end

/-! ## What is written -/

theorem ofPlain_of_styleOf {s : List Char} (h : styleOf s = .plain) :
    Tag.ofPlain s = .text ∧ isPlainText s = true := by
  unfold styleOf at h
  split at h
  · assumption
  · split at h <;> cases h

theorem isSingleText_of_styleOf {s : List Char} (h : styleOf s = .single) : isSingleText s = true := by
  unfold styleOf at h
  split at h
  · cases h
  · split at h
    · assumption
    · cases h

theorem Spells.word (h : isPlainText s.toList = true) : Spells indent s.toList (.scalar s true) := by
  have hplain : Spells indent (plainForm false indent 0 s.toList) (.scalar (.ofList s.toList) true) := .plain false 0 h
  rwa [plainForm, plainChars_eq_self, String.ofList_toList] at hplain

theorem IsWord.isPlainText (hs : IsWord s) : isPlainText s.toList = true := (ofPlain_of_styleOf hs.1).2

theorem IsWord.spells (hs : IsWord s) : Spells indent s.toList (.scalar s true) := .word hs.isPlainText

theorem spells_textForm (fold : Bool) (column : Nat) (s : String) :
    Spells indent (textForm fold indent column s.toList) (scalarToken (.text s)) := by
  have htoken : scalarToken (.text s) = .scalar (.ofList s.toList) (styleOf s.toList = .plain) := by
    rw [String.ofList_toList]
    rfl
  rw [htoken, textForm]
  cases hstyle : styleOf s.toList with
  | plain => exact .plain fold column (ofPlain_of_styleOf hstyle).2
  | single => exact .single fold column (isSingleText_of_styleOf hstyle)
  | double => exact .double fold column s.toList

/-- A value that is written behind its key on the same line. -/
structure IsScalar (v : Value) : Prop where
  tokens : tokensOf v = [scalarToken v]
  afterKey (indent column : Nat) : afterKey indent column v = ' ' :: scalarForm true (indent + 2) (column + 1) v
  spells (indent column : Nat) : Spells indent (scalarForm true indent column v) (scalarToken v)

theorem Fits.scalar_or_dict (hv : Fits indent v) :
    (indent + 2 < bestWidth ∧ IsScalar v) ∨ ∃ es, v = .dict es ∧ es ≠ [] ∧ EntriesFit (indent + 2) es := by
  have hnull : isPlainText "null".toList = true := by decide
  have htrue : isPlainText "true".toList = true := by decide
  have hfalse : isPlainText "false".toList = true := by decide
  match v, hv with
  | .none, hwidth => exact .inl ⟨hwidth, rfl, fun _ _ => rfl, fun _ _ => .word hnull⟩
  | .bool true, hwidth => exact .inl ⟨hwidth, rfl, fun _ _ => rfl, fun _ _ => .word htrue⟩
  | .bool false, hwidth => exact .inl ⟨hwidth, rfl, fun _ _ => rfl, fun _ _ => .word hfalse⟩
  | .text s, hwidth => exact .inl ⟨hwidth, rfl, fun _ _ => rfl, fun _ column => spells_textForm true column s⟩
  | .dict es, hv => exact .inr ⟨es, rfl, hv⟩

/-- The entries of a block, which starts in the column by which it is indented. -/
def entriesForm (indent : Nat) (es : List (Value × Value)) : List Char := onLines indent (entryForms indent es)

def entryForm (indent : Nat) (s : String) (v : Value) : List Char :=
  s.toList ++ ':' :: afterKey indent (indent + s.toList.length + 1) v

theorem afterKey_dict (hne : es ≠ []) (column : Nat) :
    afterKey indent column (.dict es) = newLine (indent + 2) ++ entriesForm (indent + 2) es := by
  rw [afterKey, if_neg (by simpa using hne)]
  rfl

theorem IsWord.isSimpleKey (hs : IsWord s) : isSimpleKey (.text s) = true := by
  have hplain := hs.isPlainText
  simp only [Yaml.isPlainText, Bool.and_eq_true, Bool.not_eq_true'] at hplain
  obtain ⟨⟨⟨⟨⟨⟨⟨hempty, -⟩, hbreak⟩, -⟩, -⟩, -⟩, -⟩, -⟩ := hplain
  have hne : s ≠ "" := by
    rintro rfl
    cases hempty
  have hany : (s.toList.any fun c => isBreak c && c != '\r') = false := by
    rw [List.any_eq_false] at hbreak ⊢
    exact fun c hc => by simp [hbreak c hc]
  simp [Yaml.isSimpleKey, Value.text?, hs.2, hne, hany]

theorem entryForms_cons (hs : IsWord s) (v : Value) (es : List (Value × Value)) :
    entryForms indent ((.text s, v) :: es) = entryForm indent s v :: entryForms indent es := by
  have hkey : scalarForm false indent indent (.text s) = s.toList := by
    show textForm false indent indent s.toList = _
    simp only [textForm, hs.1, plainForm, plainChars_eq_self]
  simp only [entryForms, hkey, hs.isSimpleKey, if_true]
  rfl

theorem entriesForm_one (hs : IsWord s) : entriesForm indent [(.text s, v)] = entryForm indent s v := by
  rw [entriesForm, entryForms_cons hs]
  exact List.intercalate_singleton

theorem entriesForm_more (hs : IsWord s) (hfit : EntriesFit indent (e :: es)) :
    entriesForm indent ((.text s, v) :: e :: es) =
      entryForm indent s v ++ (newLine indent ++ entriesForm indent (e :: es)) := by
  obtain ⟨k, w⟩ := e
  obtain ⟨⟨t, rfl, ht⟩, -⟩ := hfit
  rw [entriesForm, entryForms_cons hs, entriesForm, entryForms_cons ht]
  exact List.intercalate_cons_cons.trans (List.append_assoc _ _ _)

theorem exists_entriesForm (hfit : EntriesFit indent es) (hne : es ≠ []) :
    ∃ s v tail, IsWord s ∧ entriesForm indent es = entryForm indent s v ++ tail := by
  match es, hfit, hne with
  | [(k, v)], ⟨⟨s, hk, hs⟩, _⟩, _ =>
    subst hk
    exact ⟨s, v, [], hs, (entriesForm_one hs).trans (List.append_nil _).symm⟩
  | (k, v) :: e :: es, ⟨⟨s, hk, hs⟩, _, hmore⟩, _ =>
    subst hk
    exact ⟨s, v, _, hs, entriesForm_more hs hmore⟩

/-- A block starts with a key, which is no separator of documents. -/
theorem startsLine_entriesForm (hfit : EntriesFit indent es) (hne : es ≠ []) (rest : List Char) :
    StartsLine (entriesForm indent es ++ rest) := by
  obtain ⟨s, v, tail, hs, htext⟩ := exists_entriesForm hfit hne
  rw [htext, entryForm, List.append_assoc, List.append_assoc, List.cons_append]
  have hspells : Spells 0 s.toList (.scalar s true) := hs.spells
  exact ⟨hspells.startsToken _, atSeparator_colon hs.isPlainText⟩

/-- Behind a key there is a blank or a new line. -/
theorem Fits.isGap_afterKey (hv : Fits indent v) (column : Nat) (rest : List Char) :
    isGap (first (afterKey indent column v ++ rest)) = true := by
  rcases hv.scalar_or_dict with ⟨-, hv⟩ | ⟨es, rfl, hne, -⟩
  · rw [hv.afterKey]
    rfl
  · rw [afterKey_dict hne]
    rfl

/-! ## Scanning -/

namespace Scanner

variable {start : List Token} {current : Int} {outer' : List Int}

/-- The entries of a block that is there already, or opens. -/
inductive Enters (indent : Nat) : Int → List Int → List Int → List Token → Prop
  | again (outer : List Int) : Enters indent indent outer outer []
  | opens (current : Int) (outer : List Int) (h : current < indent) :
    Enters indent current outer (current :: outer) [.mappingStart]

theorem Enters.le (h : Enters indent current outer outer' start) : current ≤ indent := by
  cases h with
  | again => exact Int.le_refl _
  | opens _ _ h => exact Int.le_of_lt h

theorem Enters.openBlock {cursor : Cursor} {allowed : Bool} {us : List Token}
    (h : Enters indent current outer outer' start) :
    (inBlock cursor current outer allowed (ts ++ us)).openBlock indent ts.length .mappingStart =
      inBlock cursor indent outer' allowed (ts ++ (start ++ us)) := by
  cases h with
  | again => exact if_neg (Int.lt_irrefl _)
  | opens _ _ h => simp only [Scanner.openBlock, inBlock, if_pos h, List.take_left, List.drop_left, List.cons_append,
      List.nil_append]

/-- From the colon of a key over its value to the line behind it. -/
def PassesValue (indent : Nat) (v : Value) : Prop :=
  ∀ (i l col column : Nat) (outer : List Int) (ts : List Token) {outdent : Nat} {rest : List Char},
    indent ≤ col → outdent ≤ indent → StartsLine rest →
      ∃ s i' l', (inBlock ⟨afterKey indent column v ++ (newLine outdent ++ rest), i, l, col⟩ indent outer false
          ts).settled? = some s ∧
        Reaches (afterKey indent column v).length s
          ((inBlock ⟨rest, i', l', outdent⟩ indent outer true (ts ++ tokensOf v)).unwind outdent)

/-- From the first key of a block over its entries to the line behind them. -/
def PassesEntries (indent : Nat) (es : List (Value × Value)) : Prop :=
  ∀ (i l : Nat) (ts : List Token) {outdent : Nat} {current : Int} {outer outer' : List Int} {start : List Token}
    {rest : List Char}, Enters indent current outer outer' start → outdent ≤ indent → StartsLine rest →
      ∃ i' l', Reaches (entriesForm indent es).length
        (inBlock ⟨entriesForm indent es ++ (newLine outdent ++ rest), i, l, indent⟩ current outer true ts)
        ((inBlock ⟨rest, i', l', outdent⟩ indent outer' true (ts ++ (start ++ entryTokens es))).unwind outdent)

theorem passesValue_scalar (hwidth : indent + 2 < bestWidth) (hv : IsScalar v) : PassesValue indent v := by
  intro i l col column outer ts outdent rest hcol houtdent hrest
  have hspells := hv.spells (indent + 2) (column + 1)
  have hin : (indent : Int) ≤ ↑(col + 1) := by omega
  have hindent : indent < indent + 2 := by omega
  rw [hv.afterKey, hv.tokens, List.cons_append]
  obtain ⟨i', l', hreaches⟩ := exists_reaches_scalar hspells hindent hwidth (Nat.succ_ne_zero col) houtdent hrest
  refine ⟨_, i', l', settled?_blanks (n := 1) (hspells.startsToken _), ?_⟩
  rw [unwind_of_le hin]
  exact hreaches.mono (Nat.le_succ_of_le hspells.length_pos)

/-- The block of a dictionary opens behind the key, and has ended where the line behind it starts. -/
theorem passesValue_dict (hne : es ≠ []) (hfit : EntriesFit (indent + 2) es) (h : PassesEntries (indent + 2) es) :
    PassesValue indent (.dict es) := by
  intro i l col column outer ts outdent rest hcol houtdent hrest
  have hin : (indent : Int) < ↑(indent + 2) := by omega
  have hout : (outdent : Int) < ↑(indent + 2) := by omega
  obtain ⟨i₁, l₁, hsettled⟩ := exists_settled?_newLine (i := i) (l := l) (n := indent + 2)
    (startsLine_entriesForm hfit hne (newLine outdent ++ rest)).toStartsToken
  obtain ⟨i', l', hreaches⟩ := h i₁ l₁ ts (.opens indent outer hin) (Nat.le_add_right_of_le houtdent) hrest
  rw [afterKey_dict hne, List.append_assoc]
  refine ⟨_, i', l', hsettled, ?_⟩
  rw [unwind_of_le (Int.le_of_lt hin)]
  rw [unwind_inBlock _ hout] at hreaches
  have htokens : ts ++ ([.mappingStart] ++ entryTokens es) ++ [.blockEnd] = ts ++ tokensOf (.dict es) :=
    List.append_assoc ts _ _
  rw [htokens] at hreaches
  exact hreaches.mono (by rw [List.length_append]; exact Nat.le_add_left _ _)

/-- Over one entry of a block. -/
theorem exists_reaches_entry (i l : Nat) (ts : List Token) (hs : IsWord s) (hfit : Fits indent v)
    (hv : PassesValue indent v) (henters : Enters indent current outer outer' start) (houtdent : outdent ≤ indent)
    (hrest : StartsLine rest) :
    ∃ i' l', Reaches (entryForm indent s v).length
      (inBlock ⟨entryForm indent s v ++ (newLine outdent ++ rest), i, l, indent⟩ current outer true ts)
      ((inBlock ⟨rest, i', l', outdent⟩ indent outer' true (ts ++ (start ++ entryTokens [(.text s, v)]))).unwind
        outdent) := by
  have hspells : Spells 0 s.toList (.scalar s true) := hs.spells
  have hlength : s.toList.length ≤ 1024 := by
    have hshort := hs.2
    rw [← String.length_toList] at hshort
    omega
  have htoken : scalarToken (.text s) = .scalar s true := congrArg (Token.scalar s) (decide_eq_true hs.1)
  have htokens : ts ++ (start ++ [.key, .scalar s true, .value]) ++ tokensOf v =
      ts ++ (start ++ entryTokens [(.text s, v)]) := by
    simp only [entryTokens, htoken, List.append_assoc, List.cons_append, List.nil_append, List.append_nil]
  obtain ⟨behind, i', l', hsettled, hreaches⟩ := hv (i + s.toList.length + 1) l (indent + s.toList.length + 1)
    (indent + s.toList.length + 1) outer' (ts ++ (start ++ [.key, .scalar s true, .value])) (by omega) houtdent hrest
  rw [htokens] at hreaches
  have hcolon : Reaches 2 (inBlock ⟨s.toList ++ ':' :: (afterKey indent (indent + s.toList.length + 1) v ++
      (newLine outdent ++ rest)), i, l, indent⟩ current outer true ts) behind := by
    refine reaches_colon hs.isPlainText hlength (hfit.isGap_afterKey _ _) henters.le ?_
    rw [String.ofList_toList, henters.openBlock]
    exact hsettled
  refine ⟨i', l', ?_⟩
  have hpos := hspells.length_pos
  rw [entryForm, List.append_assoc, List.cons_append, List.length_append, List.length_cons]
  exact (hcolon.trans hreaches).mono (by omega)

theorem passesEntries_one (hs : IsWord s) (hfit : Fits indent v) (hv : PassesValue indent v) :
    PassesEntries indent [(.text s, v)] := by
  intro i l ts outdent current outer outer' start rest henters houtdent hrest
  rw [entriesForm_one hs]
  exact exists_reaches_entry i l ts hs hfit hv henters houtdent hrest

theorem passesEntries_more (hs : IsWord s) (hfit : Fits indent v) (hfits : EntriesFit indent (e :: es))
    (hv : PassesValue indent v) (hes : PassesEntries indent (e :: es)) :
    PassesEntries indent ((.text s, v) :: e :: es) := by
  intro i l ts outdent current outer outer' start rest henters houtdent hrest
  have hline : StartsLine (entriesForm indent (e :: es) ++ (newLine outdent ++ rest)) :=
    startsLine_entriesForm hfits (List.cons_ne_nil e es) _
  obtain ⟨i₁, l₁, hentry⟩ := exists_reaches_entry i l ts hs hfit hv henters (Nat.le_refl indent) hline
  have hstay : (indent : Int) ≤ indent := Int.le_refl _
  rw [unwind_of_le hstay] at hentry
  obtain ⟨i', l', hmore⟩ := hes i₁ l₁ (ts ++ (start ++ entryTokens [(.text s, v)])) (.again outer') houtdent hrest
  have htokens : ts ++ (start ++ entryTokens [(.text s, v)]) ++ ([] ++ entryTokens (e :: es)) =
      ts ++ (start ++ entryTokens ((.text s, v) :: e :: es)) := by
    obtain ⟨k, w⟩ := e
    simp only [entryTokens, List.append_assoc, List.cons_append, List.nil_append]
  rw [htokens] at hmore
  refine ⟨i', l', ?_⟩
  rw [entriesForm_more hs hfits, List.append_assoc, List.append_assoc]
  exact (hentry.trans hmore).mono (by simp only [List.length_append]; omega)

mutual

theorem passesValue (v : Value) {indent : Nat} (hv : Fits indent v) : PassesValue indent v := by
  rcases hv.scalar_or_dict with ⟨hwidth, hscalar⟩ | ⟨es, rfl, hne, hfits⟩
  · exact passesValue_scalar hwidth hscalar
  · exact passesValue_dict hne hfits (passesEntries es hne hfits)

theorem passesEntries (es : List (Value × Value)) {indent : Nat} (hne : es ≠ []) (hfits : EntriesFit indent es) :
    PassesEntries indent es := by
  match es, hne, hfits with
  | [(k, v)], _, ⟨⟨s, hk, hs⟩, hv, _⟩ =>
    subst hk
    exact passesEntries_one hs hv (passesValue v hv)
  | (k, v) :: e :: es, _, ⟨⟨s, hk, hs⟩, hv, hmore⟩ =>
    subst hk
    exact passesEntries_more hs hv hmore (passesValue v hv) (passesEntries (e :: es) (List.cons_ne_nil e es) hmore)

end

/-- At the end of the text the outermost block ends. -/
theorem look_end (fuel : Nat) :
    look fuel ((inBlock ⟨[], i, l, 0⟩ ((0 : Nat) : Int) [-1] true ts).unwind ((0 : Nat) : Int)) =
      some (ts ++ [.blockEnd]) := by
  have hopen : ((0 : Nat) : Int) ≤ ((0 : Nat) : Int) := Int.le_refl _
  have hclose : (-1 : Int) < ((0 : Nat) : Int) := by decide
  have hempty : (inBlock ⟨[], i, l, 0⟩ ((0 : Nat) : Int) [-1] true ts).cursor.rest.isEmpty = true := rfl
  have hdone : (-1 : Int) ≤ -1 := Int.le_refl _
  rw [unwind_of_le hopen, look, hempty, if_pos rfl, unwind_inBlock _ hclose, unwind_of_le hdone]
  rfl

end Scanner

/-! ## Whole texts -/

mutual

theorem inDocument_afterKey (v : Value) {indent : Nat} (hv : Fits indent v) (column : Nat) :
    ∀ c ∈ afterKey indent column v, InDocument c := by
  rcases hv.scalar_or_dict with ⟨-, hscalar⟩ | ⟨es, rfl, hne, hfits⟩
  · rw [hscalar.afterKey]
    exact List.forall_mem_cons.mpr ⟨by decide, (hscalar.spells _ _).inDocument⟩
  · rw [afterKey_dict hne]
    exact List.forall_mem_append.mpr ⟨inDocument_newLine _, inDocument_entriesForm es hne hfits⟩

theorem inDocument_entriesForm (es : List (Value × Value)) {indent : Nat} (hne : es ≠ [])
    (hfits : EntriesFit indent es) : ∀ c ∈ entriesForm indent es, InDocument c := by
  have entry {s : String} {v : Value} (hs : IsWord s) (hv : ∀ column, ∀ c ∈ afterKey indent column v, InDocument c) :
      ∀ c ∈ entryForm indent s v, InDocument c := by
    have hspells : Spells 0 s.toList (.scalar s true) := hs.spells
    exact List.forall_mem_append.mpr ⟨hspells.inDocument, List.forall_mem_cons.mpr ⟨by decide, hv _⟩⟩
  match es, hne, hfits with
  | [(k, v)], _, ⟨⟨s, hk, hs⟩, hv, _⟩ =>
    subst hk
    rw [entriesForm_one hs]
    exact entry hs (inDocument_afterKey v hv)
  | (k, v) :: e :: es, _, ⟨⟨s, hk, hs⟩, hv, hmore⟩ =>
    subst hk
    rw [entriesForm_more hs hmore]
    exact List.forall_mem_append.mpr ⟨entry hs (inDocument_afterKey v hv), List.forall_mem_append.mpr
      ⟨inDocument_newLine _, inDocument_entriesForm (e :: es) (List.cons_ne_nil e es) hmore⟩⟩

end

theorem toList_write (hne : es ≠ []) : (write (.dict es)).toList = entriesForm 0 es ++ (newLine 0 ++ []) := by
  have hempty : es.isEmpty = false := List.isEmpty_eq_false_iff.mpr hne
  rw [write, String.toList_ofList, blockForm, hempty]
  rfl

theorem inDocument_write (hne : es ≠ []) (hfits : EntriesFit 0 es) :
    ∀ c ∈ (write (.dict es)).toList, InDocument c := by
  rw [toList_write hne, List.append_nil]
  exact List.forall_mem_append.mpr ⟨inDocument_entriesForm es hne hfits, inDocument_newLine 0⟩

theorem isAllowed_of_inDocument {c : Char} (h : InDocument c) : isAllowed c = true := by
  rcases h with ⟨hleft, hright⟩ | rfl
  · have hbounds : 0x20 ≤ c.toNat ∧ c.toNat ≤ 0x7E := ⟨hleft, hright⟩
    simp [isAllowed, hbounds]
  · rfl

/-- What a dictionary is written as is scanned as its tokens. -/
theorem scan?_write (hne : es ≠ []) (hfits : EntriesFit 0 es) :
    scan? (write (.dict es)) = some (tokensOf (.dict es)) := by
  have hallowed : (write (.dict es)).toList.all isAllowed = true :=
    List.all_eq_true.mpr fun c hc => isAllowed_of_inDocument (inDocument_write hne hfits c hc)
  have hend : StartsLine [] := ⟨⟨by decide, by decide, by decide, by decide⟩, by decide⟩
  obtain ⟨i', l', m, hm, hlook⟩ := Scanner.passesEntries es hne hfits 0 0 [] (.opens (-1) [] (by decide))
    (Nat.le_refl 0) hend
  have hsettled : (Scanner.inBlock ⟨entriesForm 0 es ++ (newLine 0 ++ []), 0, 0, 0⟩ (-1) [] true []).settled? =
      some (Scanner.inBlock ⟨entriesForm 0 es ++ (newLine 0 ++ []), 0, 0, 0⟩ (-1) [] true []) := by
    have houtside : (-1 : Int) ≤ ((0 + 0 : Nat) : Int) := by decide
    refine (Scanner.settled?_blanks (n := 0) (startsLine_entriesForm hfits hne _).toStartsToken).trans ?_
    exact congrArg some (Scanner.unwind_of_le houtside)
  obtain ⟨fuel, hfuel⟩ : ∃ fuel, (entriesForm 0 es ++ (newLine 0 ++ [])).length = fuel + m := by
    have hle : m ≤ (entriesForm 0 es ++ (newLine 0 ++ [])).length := by
      rw [List.length_append]
      exact Nat.le_add_right_of_le hm
    exact ⟨_, (Nat.sub_add_cancel hle).symm⟩
  rw [scan?, hallowed, if_pos rfl, toList_write hne, hfuel]
  show Scanner.run (fuel + m + 1) (.inBlock ⟨_, 0, 0, 0⟩ (-1) [] true []) = _
  rw [Scanner.run_succ, hsettled, Option.bind_some, hlook, Scanner.look_end]
  rfl

end Emission.Yaml
