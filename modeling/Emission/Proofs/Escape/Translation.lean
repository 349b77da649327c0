import Emission.Escape.Format
import Emission.Proofs.Escape.Reading

/-!
# Re-escaped texts and the host

A host that translates unicode escapes before it reads a text, and what it makes of a text that was re-escaped
for it. A backslash may begin an escape if the backslashes directly before it are even in number. Main statement:
`hostInputs?_reescape`, the translation never fails, and it is the text itself exactly if no `u` in the text stands
behind a run of backslashes of even length (`EvenRun`): the last backslash of such a run cannot begin an escape.
-/

namespace Emission.Escape

/-! ## The host -/

/-- What a host finds in a text. -/
inductive HostInput
  | raw (c : Char)
  /-- An escape, as it is written, for this code unit. -/
  | escape (written : List Char) (unit : Nat)
  deriving DecidableEq, Repr

/-- The code units of a character. -/
def charUnits (c : Char) : List Nat :=
  if c.toNat ≤ maxBasic then [c.toNat]
  else [0xD800 + (c.toNat - 0x10000) / 0x400, 0xDC00 + (c.toNat - 0x10000) % 0x400]

/-- An escape is replaced by its code unit, a character stays as it is. -/
def HostInput.units : HostInput → List Nat
  | raw c => charUnits c
  | escape _ unit => [unit]

/-- What a host finds in a text behind so many backslashes. A backslash behind an even number of them that is
followed by one `u` or more begins an escape, and four hexadecimal digits have to come next. -/
def hostInputs? (slashes : Nat) (cs : List Char) : Option (List HostInput) :=
  match cs with
  | [] => some []
  | c :: rest =>
    if c = '\\' ∧ slashes % 2 = 0 ∧ rest.head? = some 'u' then
      let marks := rest.takeWhile (· = 'u')
      let digits := rest.dropWhile (· = 'u')
      match hexField? 4 digits with
      | none => none
      | some unit =>
        (hostInputs? 0 (digits.drop 4)).map (.escape (c :: marks ++ digits.take 4) unit :: ·)
    else (hostInputs? (if c = '\\' then slashes + 1 else 0) rest).map (.raw c :: ·)
termination_by cs.length
decreasing_by
  · have hle := (List.dropWhile_sublist (l := rest) (· = 'u')).length_le
    simp only [List.length_drop, List.length_cons]
    exact Nat.lt_succ_of_le (Nat.le_trans (Nat.sub_le _ 4) hle)
  · exact Nat.lt_succ_self _

/-! ## Runs of backslashes -/

/-- Some `u` has an even number of backslashes directly before it, and not none. -/
def EvenRun (cs : List Char) : Prop :=
  ∃ before n after, cs = before ++ (List.replicate n '\\' ++ 'u' :: after) ∧
    before.getLast? ≠ some '\\' ∧ 0 < n ∧ n % 2 = 0

theorem replicate_append_inj {a c d : Char} (hc : c ≠ a) (hd : d ≠ a) {m n : Nat} {cs ds : List Char}
    (h : List.replicate m a ++ c :: cs = List.replicate n a ++ d :: ds) : m = n ∧ c :: cs = d :: ds := by
  induction m generalizing n with
  | zero =>
    cases n with
    | zero => exact ⟨rfl, h⟩
    | succ n => exact absurd (List.cons.inj h).1 hc
  | succ m ih =>
    cases n with
    | zero => exact absurd (List.cons.inj h).1.symm hd
    | succ n =>
      obtain ⟨hlength, hrest⟩ := ih (List.cons.inj h).2
      exact ⟨congrArg (· + 1) hlength, hrest⟩

/-- Before a character that is no backslash, only what comes directly before it is its run. -/
theorem getLast?_append_cons_ne {c : Char} (hc : c ≠ '\\') (front back : List Char) :
    (front ++ c :: back).getLast? ≠ some '\\' ↔ back.getLast? ≠ some '\\' := by
  rw [List.getLast?_append, List.getLast?_cons]
  cases back.getLast? <;> simp [hc]

/-- A run of backslashes ends at the first other character. -/
theorem evenRun_replicate_append {c : Char} (hc : c ≠ '\\') (n : Nat) (rest : List Char) :
    EvenRun (List.replicate n '\\' ++ c :: rest) ↔
      (c = 'u' ∧ 0 < n ∧ n % 2 = 0) ∨ EvenRun rest := by
  constructor
  · rintro ⟨before, m, after, hcs, hlast, hpos, heven⟩
    rcases List.append_eq_append_iff.mp hcs with ⟨between, rfl, hrest⟩ | ⟨between, hrun, hrest⟩
    · -- the run stands behind the other character
      cases between with
      | nil =>
        obtain ⟨m, rfl⟩ := Nat.exists_eq_add_one.mpr hpos
        exact absurd (List.cons.inj hrest).1 hc
      | cons d between =>
        obtain ⟨rfl, rfl⟩ := List.cons.inj hrest
        exact .inr ⟨between, m, after, rfl, (getLast?_append_cons_ne hc _ between).mp hlast, hpos, heven⟩
    · -- the run is the one at the beginning, for nothing but backslashes comes before it
      have hbefore : before = [] := by
        rcases List.eq_nil_or_concat before with hnil | ⟨front, d, rfl⟩
        · exact hnil
        · have hmem : d ∈ List.replicate n '\\' := by
            rw [hrun]
            simp
          rw [List.concat_eq_append, List.getLast?_concat, List.eq_of_mem_replicate hmem] at hlast
          exact absurd rfl hlast
      subst hbefore
      rw [List.nil_append] at hrun
      rw [← hrun] at hrest
      obtain ⟨rfl, hmark⟩ := replicate_append_inj (by decide) hc hrest
      exact .inl ⟨(List.cons.inj hmark).1.symm, hpos, heven⟩
  · rintro (⟨rfl, hpos, heven⟩ | ⟨before, m, after, rfl, hlast, hpos, heven⟩)
    · exact ⟨[], n, rest, rfl, by simp, hpos, heven⟩
    · refine ⟨List.replicate n '\\' ++ c :: before, m, after, by simp, ?_, hpos, heven⟩
      exact (getLast?_append_cons_ne hc _ before).mpr hlast

theorem not_evenRun_replicate (n : Nat) : ¬EvenRun (List.replicate n '\\') := by
  rintro ⟨before, m, after, hcs, -, -, -⟩
  have hmem : 'u' ∈ List.replicate n '\\' := by
    rw [hcs]
    simp
  exact absurd (List.eq_of_mem_replicate hmem) (by decide)

/-! ## One step of the host -/

/-- A character that begins no escape is passed over. -/
theorem hostInputs?_raw {c : Char} {slashes : Nat} {rest : List Char}
    (h : ¬(c = '\\' ∧ slashes % 2 = 0 ∧ rest.head? = some 'u')) :
    hostInputs? slashes (c :: rest) =
      (hostInputs? (if c = '\\' then slashes + 1 else 0) rest).map (.raw c :: ·) := by
  rw [hostInputs?, if_neg h]

theorem hostInputs?_raw_of_ne {c : Char} (hc : c ≠ '\\') (slashes : Nat) (rest : List Char) :
    hostInputs? slashes (c :: rest) = (hostInputs? 0 rest).map (.raw c :: ·) := by
  rw [hostInputs?_raw fun h => hc h.1, if_neg hc]

theorem hostInputs?_plain {cs : List Char} (h : '\\' ∉ cs) (rest : List Char) :
    hostInputs? 0 (cs ++ rest) = (hostInputs? 0 rest).map (cs.map .raw ++ ·) := by
  induction cs with
  | nil => simp
  | cons c cs ih =>
    obtain ⟨hc, hcs⟩ := not_or.mp (mt List.mem_cons.mpr h)
    rw [List.cons_append, hostInputs?_raw_of_ne (Ne.symm hc), ih hcs, Option.map_map]
    rfl

/-- The escape of the backslash itself. -/
def slashEscape : List Char := ['\\', 'u', '0', '0', '5', 'C']

theorem hostInputs?_slashEscape {slashes : Nat} (h : slashes % 2 = 0) (rest : List Char) :
    hostInputs? slashes (slashEscape ++ rest) =
      (hostInputs? 0 rest).map (.escape slashEscape 0x5C :: ·) := by
  have hfield : hexField? 4 ('0' :: '0' :: '5' :: 'C' :: rest) = some 0x5C := by
    simp only [hexField?, List.take_succ_cons, List.take_zero]
    rfl
  rw [slashEscape, List.cons_append, hostInputs?, if_pos ⟨rfl, h, rfl⟩]
  simp [hfield]

/-! ## The whole text -/

theorem head?_reescapeChars (cs : List Char) : (reescapeChars cs).head? = cs.head? := by
  fun_cases reescapeChars cs <;> rfl

/-- What the host makes of a re-escaped text that stands behind so many backslashes. -/
structure Translates (slashes : Nat) (cs : List Char) (found : List HostInput) : Prop where
  read : hostInputs? slashes (reescapeChars cs) = some found
  escapes : ∀ written unit, .escape written unit ∈ found → written = slashEscape
  length_le : (cs.flatMap charUnits).length ≤ (found.flatMap HostInput.units).length
  faithful_iff : found.flatMap HostInput.units = cs.flatMap charUnits ↔
    ¬EvenRun (List.replicate slashes '\\' ++ cs)

section Step

variable {slashes : Nat} {rest : List Char} {found : List HostInput}

theorem Translates.length_lt_passed (h : Translates 0 rest found) :
    (('\\' :: 'u' :: rest).flatMap charUnits).length <
      (((slashEscape ++ ['u']).map HostInput.raw ++ found).flatMap HostInput.units).length := by
  have hlong : (((slashEscape ++ ['u']).map HostInput.raw).flatMap HostInput.units).length = 7 := rfl
  have hshort : (['\\', 'u'].flatMap charUnits).length = 2 := rfl
  have hsplit : '\\' :: 'u' :: rest = ['\\', 'u'] ++ rest := rfl
  have := h.length_le
  rw [hsplit, List.flatMap_append, List.flatMap_append, List.length_append, List.length_append, hlong, hshort]
  omega

/-- A backslash that may begin an escape comes back from its own one. -/
theorem Translates.reescaped (heven : slashes % 2 = 0) (h : Translates 0 rest found) :
    Translates slashes ('\\' :: 'u' :: rest) (.escape slashEscape 0x5C :: .raw 'u' :: found) where
  read := by
    rw [reescapeChars]
    refine (hostInputs?_slashEscape heven ('u' :: reescapeChars rest)).trans ?_
    rw [hostInputs?_raw_of_ne (by decide), h.read]
    rfl
  escapes := by
    intro written unit hmem
    rcases List.mem_cons.mp hmem with heq | hmem
    · exact (HostInput.escape.inj heq).1
    · rcases List.mem_cons.mp hmem with heq | hmem
      · cases heq
      · exact h.escapes written unit hmem
  length_le := by
    have := h.length_le
    simp only [List.flatMap_cons, List.length_append]
    exact Nat.add_le_add_left (Nat.add_le_add_left this _) _
  faithful_iff := by
    have hrun : EvenRun (List.replicate slashes '\\' ++ '\\' :: 'u' :: rest) ↔ EvenRun rest := by
      -- with the backslash that is escaped, the run is odd
      have := evenRun_replicate_append (c := 'u') (by decide) (slashes + 1) rest
      rw [List.replicate_succ', List.append_assoc] at this
      refine this.trans ⟨?_, .inr⟩
      rintro (⟨-, -, hodd⟩ | hrest)
      · omega
      · exact hrest
    rw [hrun]
    refine Iff.trans ?_ h.faithful_iff
    exact ⟨fun heq => (List.cons.inj (List.cons.inj heq).2).2, fun heq => by
      rw [List.flatMap_cons, List.flatMap_cons, heq]; rfl⟩

/-- A backslash behind an odd number of others is passed over, and so is all of the escape it was given. -/
theorem Translates.passed (hodd : slashes % 2 = 1) (h : Translates 0 rest found) :
    Translates slashes ('\\' :: 'u' :: rest) ((slashEscape ++ ['u']).map .raw ++ found) where
  read := by
    have hplain : hostInputs? 0 (['0', '0', '5', 'C', 'u'] ++ reescapeChars rest) =
        some (['0', '0', '5', 'C', 'u'].map .raw ++ found) := by
      rw [hostInputs?_plain (by decide), h.read]
      rfl
    rw [reescapeChars, hostInputs?_raw fun heven => by omega, hostInputs?_raw_of_ne (by decide)]
    exact congrArg (fun read => (read.map (.raw 'u' :: ·)).map (.raw '\\' :: ·)) hplain
  escapes := by
    intro written unit hmem
    rcases List.mem_append.mp hmem with hraw | hmem
    · obtain ⟨c, -, hc⟩ := List.mem_map.mp hraw
      cases hc
    · exact h.escapes written unit hmem
  length_le := Nat.le_of_lt (h.length_lt_passed)
  faithful_iff := by
    have hrun : EvenRun (List.replicate slashes '\\' ++ '\\' :: 'u' :: rest) := by
      have := (evenRun_replicate_append (c := 'u') (by decide) (slashes + 1) rest).mpr
        (.inl ⟨rfl, by omega, by omega⟩)
      rwa [List.replicate_succ', List.append_assoc] at this
    -- five characters more than the text has
    refine ⟨fun heq => ?_, fun hno => absurd hrun hno⟩
    exact absurd (congrArg List.length heq) (Nat.ne_of_gt h.length_lt_passed)

/-- Any other character stays as it is. -/
theorem Translates.raw {c : Char} (hmark : ¬(c = '\\' ∧ rest.head? = some 'u'))
    (hstart : c = 'u' → slashes = 0)
    (h : Translates (if c = '\\' then slashes + 1 else 0) rest found) :
    Translates slashes (c :: rest) (.raw c :: found) where
  read := by
    have hcons : reescapeChars (c :: rest) = c :: reescapeChars rest :=
      reescapeChars.eq_2 c rest fun more hc hrest => hmark ⟨hc, by rw [hrest]; rfl⟩
    rw [hcons, hostInputs?_raw, h.read]
    · rfl
    · rw [head?_reescapeChars]
      exact fun hescape => hmark ⟨hescape.1, hescape.2.2⟩
  escapes := by
    intro written unit hmem
    rcases List.mem_cons.mp hmem with heq | hmem
    · cases heq
    · exact h.escapes written unit hmem
  length_le := by
    simp only [List.flatMap_cons, List.length_append]
    exact Nat.add_le_add_left h.length_le _
  faithful_iff := by
    -- a backslash joins the run before it; anything else ends the run without an escape
    have hrun : EvenRun (List.replicate slashes '\\' ++ c :: rest) ↔
        EvenRun (List.replicate (if c = '\\' then slashes + 1 else 0) '\\' ++ rest) := by
      by_cases hc : c = '\\'
      · rw [if_pos hc, hc, List.replicate_succ', List.append_assoc]
        rfl
      · rw [if_neg hc, evenRun_replicate_append hc]
        refine ⟨?_, .inr⟩
        rintro (⟨hu, hpos, -⟩ | hrest)
        · have := hstart hu
          omega
        · exact hrest
    rw [hrun, ← h.faithful_iff, List.flatMap_cons, List.flatMap_cons]
    exact List.append_right_inj (charUnits c)

end Step

/-- Every text is translated, from behind any number of backslashes unless it begins with `u`. -/
theorem exists_translates (slashes : Nat) (cs : List Char)
    (hstart : cs.head? = some 'u' → slashes = 0) : ∃ found, Translates slashes cs found := by
  fun_induction reescapeChars cs generalizing slashes with
  | case1 rest ih =>
    obtain ⟨found, h⟩ := ih 0 fun _ => rfl
    rcases Nat.mod_two_eq_zero_or_one slashes with heven | hodd
    · exact ⟨_, h.reescaped heven⟩
    · exact ⟨_, h.passed hodd⟩
  | case2 c rest hmark ih =>
    have hother : ¬(c = '\\' ∧ rest.head? = some 'u') := by
      rintro ⟨hc, hhead⟩
      obtain ⟨more, hrest⟩ := List.head?_eq_some_iff.mp hhead
      exact hmark more hc hrest
    obtain ⟨found, h⟩ := ih (if c = '\\' then slashes + 1 else 0) fun hhead =>
      if_neg fun hc => hother ⟨hc, hhead⟩
    exact ⟨_, h.raw hother fun hc => hstart (by rw [hc]; rfl)⟩
  | case3 =>
    refine ⟨[], ?_, by simp, Nat.le_refl _, ?_⟩
    · rw [reescapeChars, hostInputs?]
    · simp [not_evenRun_replicate]

/-- A host translates a re-escaped text without fail, and finds no other escapes there than those of the
backslash. It gets the text as it was exactly if no `u` in the text has an even number of backslashes before it,
other than none. -/
theorem hostInputs?_reescape (s : String) :
    ∃ found, hostInputs? 0 (reescape s).toList = some found ∧
      (∀ written unit, .escape written unit ∈ found → written = "\\u005C".toList) ∧
      (found.flatMap HostInput.units = s.toList.flatMap charUnits ↔ ¬EvenRun s.toList) := by
  obtain ⟨found, h⟩ := exists_translates 0 s.toList fun _ => rfl
  rw [toList_reescape]
  exact ⟨found, h.read, fun written unit hmem => (h.escapes written unit hmem).trans rfl, h.faithful_iff⟩

end Emission.Escape
