import Emission.Proofs.Json.Text

/-!
# Documents in JSON

Nothing, truth values, texts and dictionaries of these under distinct texts are read back from what they are
written as. Main statement: `read?_write`; `reads` is what the induction proves, for a value inside others and
whatever follows it.
-/

namespace Emission.Json

/-! ## Plain values -/

mutual

/-- A value of nothing but texts, truth values and dictionaries with distinct texts as keys. -/
def Plain : Value → Prop
  | .none | .bool _ | .text _ => True
  | .dict es => (es.map (·.1.text?)).Nodup ∧ PlainEntries es
  | _ => False

def PlainEntries : List (Value × Value) → Prop
  | [] => True
  | (k, v) :: rest => (∃ s, k = .text s) ∧ Plain v ∧ PlainEntries rest

end

theorem put_of_not_mem {k : String} (v : Value) {es : List (Value × Value)}
    (htext : ∀ e ∈ es, ∃ s, e.1 = .text s) (hk : some k ∉ es.map (·.1.text?)) :
    Value.put (.text k) v es = es ++ [(.text k, v)] := by
  induction es with
  | nil => rfl
  | cons e rest ih =>
    obtain ⟨⟨s, hs⟩, hrest⟩ := List.forall_mem_cons.mp htext
    obtain ⟨key, w⟩ := e
    obtain rfl : key = .text s := hs
    rw [List.map_cons, List.mem_cons, not_or] at hk
    have hne : Value.same (.text s) (.text k) = false := beq_eq_false_iff_ne.mpr hk.1
    rw [Value.put, hne, ih hrest hk.2]
    rfl

/-- Entries under distinct texts are put one behind the other. -/
theorem foldl_put (start : List (Value × Value)) {es : List (Value × Value)}
    (htext : ∀ e ∈ start ++ es, ∃ s, e.1 = .text s) (hkeys : ((start ++ es).map (·.1.text?)).Nodup) :
    es.foldl (fun es p => Value.put p.1 p.2 es) start = start ++ es := by
  induction es generalizing start with
  | nil => exact (List.append_nil start).symm
  | cons e rest ih =>
    obtain ⟨key, v⟩ := e
    obtain ⟨s, hs⟩ := htext (key, v) (List.mem_append_right start List.mem_cons_self)
    obtain rfl : key = .text s := hs
    have hk : some s ∉ start.map (·.1.text?) := by
      rw [List.map_append, List.nodup_append] at hkeys
      exact fun hmem => hkeys.2.2 _ hmem _ (List.mem_cons_self) rfl
    rw [List.foldl_cons, put_of_not_mem v (fun e he => htext e (List.mem_append_left _ he)) hk]
    have hsplit : start ++ (.text s, v) :: rest = start ++ [(.text s, v)] ++ rest := by simp
    rw [hsplit] at htext hkeys ⊢
    exact ih _ htext hkeys

theorem text_of_plainEntries {es : List (Value × Value)} (h : PlainEntries es) :
    ∀ e ∈ es, ∃ s, e.1 = .text s := by
  induction es with
  | nil => exact List.forall_mem_nil _
  | cons e rest ih =>
    obtain ⟨k, v⟩ := e
    exact List.forall_mem_cons.mpr ⟨h.1, ih h.2.2⟩

theorem dictOf_of_plain {es : List (Value × Value)} (h : Plain (.dict es)) :
    Value.dictOf es = .dict es :=
  congrArg Value.dict (foldl_put [] (text_of_plainEntries h.2) h.1)

/-! ## Layout -/

/-- The entries of a dictionary between the first line start and the last. -/
def entriesText (level : Nat) (k v : Value) (es : List (Value × Value)) : List Char :=
  keyForm k ++ ':' :: ' ' :: (form level v ++ entryForms level es)

/-- A key is a text, which starts with a quote. -/
theorem exists_entriesText (level : Nat) (s : String) (v : Value) (es : List (Value × Value)) :
    ∃ tail, entriesText level (.text s) v es = '"' :: tail ∧
      ∀ rest, readText? (tail ++ rest) =
        some (s.toList, ':' :: ' ' :: (form level v ++ entryForms level es) ++ rest) := by
  obtain ⟨tail, hform, hread⟩ := exists_textForm s
  refine ⟨tail ++ ':' :: ' ' :: (form level v ++ entryForms level es), ?_, fun rest => ?_⟩
  · rw [entriesText, keyForm, hform, List.cons_append]
  · rw [List.append_assoc, hread]

theorem form_dict (level : Nat) (k v : Value) (es : List (Value × Value)) :
    form level (.dict ((k, v) :: es)) =
      '\x7b' :: (lineStart (level + 1) ++ (entriesText (level + 1) k v es ++
        (lineStart level ++ ['\x7d']))) := by
  simp only [form, entriesText, List.append_assoc, List.cons_append]

theorem entryForms_cons (level : Nat) (k v : Value) (es : List (Value × Value)) :
    entryForms level ((k, v) :: es) = ',' :: (lineStart level ++ entriesText level k v es) := by
  simp only [entryForms, entriesText, List.append_assoc, List.cons_append]

/-! ## Blanks -/

theorem skipSpace_cons {c : Char} (h : isSpace c = false) (cs : List Char) :
    skipSpace (c :: cs) = c :: cs :=
  List.dropWhile_cons_of_neg (by simp [h])

theorem skipSpace_lineStart (level : Nat) (cs : List Char) :
    skipSpace (lineStart level ++ cs) = skipSpace cs := by
  have hblank : ∀ c ∈ lineStart level, isSpace c = true := by
    intro c hc
    rcases List.mem_cons.mp hc with rfl | hc
    · decide
    · obtain rfl := List.eq_of_mem_replicate hc
      decide
  exact List.dropWhile_append_of_pos hblank

/-- What a plain value is written as starts with no blank. -/
theorem exists_form {v : Value} (hv : Plain v) (level : Nat) :
    ∃ c cs, form level v = c :: cs ∧ isSpace c = false := by
  match v, hv with
  | .none, _ => exact ⟨_, _, rfl, by decide⟩
  | .bool true, _ => exact ⟨_, _, rfl, by decide⟩
  | .bool false, _ => exact ⟨_, _, rfl, by decide⟩
  | .text s, _ => exact ⟨_, _, rfl, by decide⟩
  | .dict [], _ => exact ⟨_, _, rfl, by decide⟩
  | .dict ((k, v) :: es), _ => exact ⟨_, _, rfl, by decide⟩

theorem skipSpace_form {v : Value} (hv : Plain v) (level : Nat) (rest : List Char) :
    skipSpace (form level v ++ rest) = form level v ++ rest := by
  obtain ⟨c, cs, hform, hc⟩ := exists_form hv level
  rw [hform]
  exact skipSpace_cons hc (cs ++ rest)

/-! ## Reading -/

/-- A word is read by the reader of words and numbers. -/
theorem readValue?_word {v : Value} {c : Char} {cs rest : List Char} (fuel : Nat)
    (hatom : atom? (c :: cs ++ rest) = some (v, rest)) (hc : c.isAlpha = true) :
    readValue? (fuel + 1) (c :: cs ++ rest) = some (v, rest) := by
  have hne {d : Char} (hd : d.isAlpha = false) {tail : List Char} : c :: cs ++ rest ≠ d :: tail := by
    intro h
    obtain rfl := (List.cons.inj h).1
    exact absurd hc (by simp [hd])
  rw [readValue?]
  · exact hatom
  · exact fun _ => hne (by decide)
  · exact fun _ => hne (by decide)
  · exact fun _ => hne (by decide)

theorem readValue?_text (fuel : Nat) (s : String) (rest : List Char) :
    readValue? (fuel + 1) (textForm s ++ rest) = some (.text s, rest) := by
  obtain ⟨tail, hform, hread⟩ := exists_textForm s
  rw [hform, List.cons_append, readValue?, hread, Option.map_some]
  exact congrArg (fun s => some (Value.text s, rest)) String.ofList_toList

theorem readValue?_emptyDict (fuel level : Nat) (rest : List Char) :
    readValue? (fuel + 1) (form level (.dict []) ++ rest) = some (.dict [], rest) := by
  rw [form, List.cons_append, List.cons_append, List.nil_append, readValue?,
    skipSpace_cons (by decide)]
  rfl

/-- A dictionary is read as its entries are. -/
theorem readValue?_dict {fuel level : Nat} {k v : Value} {es : List (Value × Value)} {rest : List Char}
    (hv : Plain (.dict ((k, v) :: es)))
    (hes : readEntries? fuel (entriesText (level + 1) k v es ++ (lineStart level ++ '\x7d' :: rest)) =
      some ((k, v) :: es, rest)) :
    readValue? (fuel + 1) (form level (.dict ((k, v) :: es)) ++ rest) =
      some (.dict ((k, v) :: es), rest) := by
  have hdict := dictOf_of_plain hv
  obtain ⟨-, ⟨s, rfl⟩, -⟩ := hv
  obtain ⟨tail, hstart, -⟩ := exists_entriesText (level + 1) s v es
  have htext : '\x7b' :: (lineStart (level + 1) ++ (entriesText (level + 1) (.text s) v es ++
      (lineStart level ++ ['\x7d']))) ++ rest =
      '\x7b' :: (lineStart (level + 1) ++ ('"' :: (tail ++ (lineStart level ++ '\x7d' :: rest)))) := by
    simp [hstart]
  rw [hstart, List.cons_append] at hes
  rw [form_dict, htext, readValue?, skipSpace_lineStart, skipSpace_cons (by decide)]
  show (readEntries? fuel ('"' :: (tail ++ _))).map _ = _
  rw [hes, Option.map_some]
  exact congrArg (fun v => some (v, rest)) hdict

section Entry

variable {fuel : Nat} {cs tail after rest more : List Char} {v : Value} {es : List (Value × Value)}

/-- One entry: its key and its value, and then the end. -/
theorem readEntries?_last (hkey : readText? tail = some (cs, ':' :: after))
    (hvalue : readValue? fuel (skipSpace after) = some (v, rest)) (hend : skipSpace rest = '\x7d' :: more) :
    readEntries? (fuel + 1) ('"' :: tail) = some ([(.text (.ofList cs), v)], more) := by
  have hcolon : skipSpace (':' :: after) = ':' :: after := skipSpace_cons (by decide) after
  simp only [readEntries?, hkey, hcolon, hvalue, hend]

/-- One entry, and then a comma and other ones. -/
theorem readEntries?_more {next : List Char} (hkey : readText? tail = some (cs, ':' :: after))
    (hvalue : readValue? fuel (skipSpace after) = some (v, rest)) (hcomma : skipSpace rest = ',' :: next)
    (hes : readEntries? fuel (skipSpace next) = some (es, more)) :
    readEntries? (fuel + 1) ('"' :: tail) = some ((.text (.ofList cs), v) :: es, more) := by
  have hcolon : skipSpace (':' :: after) = ':' :: after := skipSpace_cons (by decide) after
  simp only [readEntries?, hkey, hcolon, hvalue, hcomma, hes, Option.map_some]

end Entry

/-- With so much fuel, plain values that are no longer are read up to their ends, whatever follows them. -/
def ReadsValues (fuel : Nat) : Prop :=
  ∀ {v : Value}, Plain v → ∀ (level : Nat) (rest : List Char), (form level v).length ≤ fuel →
    readValue? fuel (form level v ++ rest) = some (v, rest)

/-- With so much fuel, the entries of dictionaries that are no longer are read up to the end. -/
def ReadsEntries (fuel : Nat) : Prop :=
  ∀ {s : String} {v : Value} {es : List (Value × Value)}, Plain v → PlainEntries es →
    ∀ (level outer : Nat) (rest : List Char), (entriesText level (.text s) v es).length ≤ fuel →
      readEntries? fuel (entriesText level (.text s) v es ++ (lineStart outer ++ '\x7d' :: rest)) =
        some ((.text s, v) :: es, rest)

theorem readsValues_succ {fuel : Nat} (hentries : ReadsEntries fuel) : ReadsValues (fuel + 1) := by
  intro v hv level rest hfuel
  match v, hv with
  | .none, _ => exact readValue?_word fuel rfl (by decide)
  | .bool true, _ => exact readValue?_word fuel rfl (by decide)
  | .bool false, _ => exact readValue?_word fuel rfl (by decide)
  | .text s, _ => exact readValue?_text fuel s rest
  | .dict [], _ => exact readValue?_emptyDict fuel level rest
  | .dict ((k, v) :: es), hv =>
    -- the brace is what the fuel of the entries is less by
    refine readValue?_dict hv ?_
    obtain ⟨-, ⟨s, rfl⟩, hvalue, hes⟩ := hv
    refine hentries hvalue hes (level + 1) level rest ?_
    rw [form_dict, List.length_cons, List.length_append, List.length_append] at hfuel
    omega

theorem length_entriesText (level : Nat) (s : String) (v : Value) (es : List (Value × Value)) :
    (entriesText level (.text s) v es).length =
      (textForm s).length + ((form level v).length + (entryForms level es).length + 2) := by
  rw [entriesText, keyForm, List.length_append, List.length_cons, List.length_cons, List.length_append]

theorem readsEntries_succ {fuel : Nat} (hvalues : ReadsValues fuel) (hentries : ReadsEntries fuel) :
    ReadsEntries (fuel + 1) := by
  intro s v es hv hes level outer rest hfuel
  rw [length_entriesText] at hfuel
  obtain ⟨tail, hstart, hkey⟩ := exists_entriesText level s v es
  have hvalue (rest : List Char) : readValue? fuel (skipSpace (' ' :: (form level v ++ rest))) =
      some (v, rest) := by
    have hblank : skipSpace (' ' :: (form level v ++ rest)) = form level v ++ rest :=
      skipSpace_form hv level rest
    rw [hblank]
    exact hvalues hv level rest (by omega)
  have hnext := hkey (lineStart outer ++ '\x7d' :: rest)
  rw [List.cons_append, List.cons_append, List.append_assoc] at hnext
  have htext : (.text s, v) = (Value.text (.ofList s.toList), v) := by rw [String.ofList_toList]
  rw [hstart, List.cons_append, htext]
  -- behind the value the dictionary ends or a comma leads to the next entry
  match es, hes with
  | [], _ =>
    refine readEntries?_last hnext (hvalue _) ?_
    rw [entryForms, List.nil_append, skipSpace_lineStart, skipSpace_cons (by decide)]
  | (_, w) :: es, ⟨⟨t, rfl⟩, hw, hes⟩ =>
    rw [entryForms_cons] at hfuel hnext
    have hmore := hentries (s := t) hw hes level outer rest (by
      rw [List.length_cons, List.length_append] at hfuel
      omega)
    obtain ⟨tail', hstart', -⟩ := exists_entriesText level t w es
    rw [hstart', List.cons_append] at hmore hnext
    refine readEntries?_more hnext (hvalue _) (skipSpace_cons (by decide) _) ?_
    rw [List.append_assoc, skipSpace_lineStart, List.cons_append, skipSpace_cons (by decide)]
    exact hmore

theorem reads (fuel : Nat) : ReadsValues fuel ∧ ReadsEntries fuel := by
  induction fuel with
  | zero =>
    refine ⟨fun hv level rest hfuel => ?_, fun _ _ level outer rest hfuel => ?_⟩
    · obtain ⟨c, cs, hform, -⟩ := exists_form hv level
      rw [hform] at hfuel
      exact absurd hfuel (Nat.not_succ_le_zero _)
    · rw [length_entriesText] at hfuel
      omega
  | succ fuel ih => exact ⟨readsValues_succ ih.2, readsEntries_succ ih.1 ih.2⟩

/-! ## Whole texts -/

/-- A plain value is read back from what it is written as. -/
theorem read?_write {v : Value} (hv : Plain v) : read? (write v) = some v := by
  have htext : (write v).toList = form 0 v ++ [] := by
    rw [write, String.toList_ofList, List.append_nil]
  have hvalue := (reads ((form 0 v ++ []).length + 1)).1 hv 0 [] (by
    rw [List.append_nil]
    exact Nat.le_succ _)
  simp only [read?, htext, skipSpace_form hv, hvalue]
  rfl

/-! ## Characters that are written -/

/-- The characters of documents: what is printable, and line feeds. -/
def InDocument (c : Char) : Prop := Printable c ∨ c = '\n'

instance (c : Char) : Decidable (InDocument c) := inferInstanceAs (Decidable (_ ∨ _))

theorem inDocument_word (cs : List Char) (h : cs.all (fun c => decide (InDocument c)) = true) :
    ∀ c ∈ cs, InDocument c :=
  fun c hc => of_decide_eq_true (List.all_eq_true.mp h c hc)

theorem inDocument_textForm (s : String) : ∀ c ∈ textForm s, InDocument c :=
  fun c hc => .inl (printable_textForm s c hc)

theorem inDocument_lineStart (level : Nat) : ∀ c ∈ lineStart level, InDocument c := by
  intro c hc
  rcases List.mem_cons.mp hc with rfl | hc
  · decide
  · obtain rfl := List.eq_of_mem_replicate hc
    decide

mutual

theorem inDocument_form (level : Nat) : ∀ v : Value, Plain v → ∀ c ∈ form level v, InDocument c
  | .none, _ => inDocument_word "null".toList (by decide)
  | .bool true, _ => inDocument_word "true".toList (by decide)
  | .bool false, _ => inDocument_word "false".toList (by decide)
  | .text s, _ => inDocument_textForm s
  | .dict [], _ => inDocument_word ['\x7b', '\x7d'] (by decide)
  | .dict ((k, v) :: es), hv => by
    obtain ⟨-, ⟨s, rfl⟩, hvalue, hes⟩ := hv
    simp only [form_dict, entriesText, List.forall_mem_append, List.forall_mem_cons]
    exact ⟨by decide, inDocument_lineStart _,
      ⟨inDocument_textForm s, by decide, by decide, inDocument_form (level + 1) v hvalue,
        inDocument_entryForms (level + 1) es hes⟩, inDocument_lineStart _, by decide, List.forall_mem_nil _⟩

theorem inDocument_entryForms (level : Nat) :
    ∀ es : List (Value × Value), PlainEntries es → ∀ c ∈ entryForms level es, InDocument c
  | [], _ => List.forall_mem_nil _
  | (k, v) :: rest, hes => by
    obtain ⟨⟨s, rfl⟩, hvalue, hrest⟩ := hes
    simp only [entryForms_cons, entriesText, List.forall_mem_append, List.forall_mem_cons]
    exact ⟨by decide, inDocument_lineStart _, inDocument_textForm s, by decide, by decide,
      inDocument_form level v hvalue, inDocument_entryForms level rest hrest⟩

end

/-- A document has no carriage returns. -/
theorem not_mem_write {v : Value} (hv : Plain v) : '\r' ∉ (write v).toList := by
  rw [write, String.toList_ofList]
  exact fun h => absurd (inDocument_form 0 v hv _ h) (by decide)

end Emission.Json
