import Emission.Entries
import Emission.Proofs.Escape.Query
import Emission.Proofs.Escape.References
import Emission.Proofs.Escape.Undoing
import Emission.Proofs.Header.Reading
import Emission.Proofs.Text.Case

/-!
# Ends of comments in formatted texts

Whether a text closes a comment once it is formatted. All formats but one leave the two marks of an end where they are
and write nothing with them, so they neither open nor close a gap between the two (`MarksKept.closes_iff`); the form of
a query string has neither mark. Main statement: `closes_formatValue_iff`.
-/

namespace Emission.Header

open Escape (Format formatValue)

/-! ## Texts that keep the marks -/

/-- A character that the end of a comment is written with. -/
def IsMark (c : Char) : Prop := c = '*' ∨ c = '/'

instance (c : Char) : Decidable (IsMark c) := inferInstanceAs (Decidable (_ ∨ _))

/-- A text has no marks in it. -/
def Unmarked (cs : List Char) : Prop := ∀ c ∈ cs, ¬ IsMark c

-- the characters of the text are tried, not all that there are
instance (cs : List Char) : Decidable (Unmarked cs) := List.decidableBAll (fun c => ¬ IsMark c) cs

/-- A mark is written as itself, and any other character with no mark. -/
def MarkKept (c : Char) (image : List Char) : Prop :=
  (IsMark c → image = [c]) ∧ (¬ IsMark c → image ≠ [] ∧ Unmarked image)

instance (c : Char) (image : List Char) : Decidable (MarkKept c image) := inferInstanceAs (Decidable (_ ∧ _))

/-- A text is written character by character, and its marks are kept. -/
inductive MarksKept : List Char → List Char → Prop
  | nil : MarksKept [] []
  | cons {c : Char} {cs image written : List Char} (hc : MarkKept c image) (hrest : MarksKept cs written) :
    MarksKept (c :: cs) (image ++ written)

/-- What neither of the marks has tells that a character is none. -/
theorem not_isMark_of (p : Char → Prop) (hstar : ¬ p '*') (hslash : ¬ p '/') {c : Char} (h : p c) : ¬ IsMark c := by
  rintro (rfl | rfl)
  · exact hstar h
  · exact hslash h

theorem markKept_self (c : Char) : MarkKept c [c] :=
  ⟨fun _ => rfl, fun hc => ⟨List.cons_ne_nil c [], fun _ hd => List.mem_singleton.mp hd ▸ hc⟩⟩

theorem markKept_of_not_isMark {c : Char} (hc : ¬ IsMark c) {image : List Char} (hne : image ≠ [])
    (himage : Unmarked image) : MarkKept c image :=
  ⟨fun hmark => absurd hmark hc, fun _ => ⟨hne, himage⟩⟩

theorem marksKept_self (cs : List Char) : MarksKept cs cs := by
  induction cs with
  | nil => exact .nil
  | cons c cs ih => exact .cons (markKept_self c) ih

theorem marksKept_flatMap {f : Char → List Char} (h : ∀ c, MarkKept c (f c)) (cs : List Char) :
    MarksKept cs (cs.flatMap f) := by
  induction cs with
  | nil => exact .nil
  | cons c cs ih => exact .cons (h c) ih

theorem closes_append_iff {image : List Char} (h : Unmarked image) (written : List Char) :
    Closes (image ++ written) ↔ Closes written := by
  induction image with
  | nil => rfl
  | cons d image ih =>
    have hd : d ≠ '*' := fun heq => h d List.mem_cons_self (.inl heq)
    rw [List.cons_append, closes_cons_iff, ih fun e he => h e (List.mem_cons_of_mem d he)]
    exact or_iff_right fun hstar => hd hstar.1

/-- A slash at the beginning comes from one at the beginning. -/
theorem MarksKept.slash_prefix_iff {cs written : List Char} (h : MarksKept cs written) :
    ['/'] <+: written ↔ ['/'] <+: cs := by
  cases h with
  | nil => rfl
  | @cons c cs image written hc hrest =>
    by_cases hmark : IsMark c
    · rw [hc.1 hmark, List.singleton_append]
      simp
    · obtain ⟨hne, himage⟩ := hc.2 hmark
      cases image with
      | nil => exact absurd rfl hne
      | cons d image =>
        have hd : ¬ '/' = d := fun heq => himage d List.mem_cons_self (.inr heq.symm)
        have hslash : ¬ '/' = c := fun heq => hmark (.inr heq.symm)
        simp [List.cons_prefix_cons, hd, hslash]

theorem MarksKept.closes_iff {cs written : List Char} (h : MarksKept cs written) :
    Closes written ↔ Closes cs := by
  induction h with
  | nil => rfl
  | @cons c cs image written hc hrest ih =>
    by_cases hmark : IsMark c
    · rw [hc.1 hmark, List.singleton_append, closes_cons_iff, closes_cons_iff, ih, hrest.slash_prefix_iff]
    · rw [closes_append_iff (hc.2 hmark).2, ih, closes_cons_iff]
      exact (or_iff_right fun hstar => hmark (.inl hstar.1)).symm

/-! ## Upper and lower case -/

theorem not_isMark_ofNat {n : Nat} (h : 48 ≤ n) : ¬ IsMark (Char.ofNat n) := by
  by_cases hvalid : n.isValidChar
  · have hhigh : 48 ≤ (Char.ofNat n).toNat := (Text.toNat_ofNat hvalid).symm ▸ h
    exact not_isMark_of (48 ≤ ·.toNat) (by decide) (by decide) hhigh
  · rw [Char.ofNat, dif_neg hvalid]
    decide

/-- A mapping whose tables map nothing to a mark keeps them. -/
theorem markKept_mapCase {specials : List (Nat × List Nat)} {runs : List Text.CaseRun}
    (hspecials : ∀ e ∈ specials, e.2 ≠ [] ∧ ∀ n ∈ e.2, 48 ≤ n)
    (hruns : ∀ r ∈ runs, 48 ≤ (r.1 : Int) + r.2.2.2) (c : Char) (hc : ¬ IsMark c) :
    MarkKept c (Text.mapCase specials runs c) := by
  rw [Text.mapCase]
  cases hlookup : specials.lookup c.toNat with
  | some codes =>
    obtain ⟨hne, hcodes⟩ := hspecials _ (Entries.mem_of_lookup hlookup)
    refine markKept_of_not_isMark hc (fun hnil => hne (List.map_eq_nil_iff.mp hnil)) fun d hd => ?_
    obtain ⟨n, hn, rfl⟩ := List.mem_map.mp hd
    exact not_isMark_ofNat (hcodes n hn)
  | none =>
    cases hshift : Text.caseShift? runs c.toNat with
    | none => exact markKept_self c
    | some shift =>
      obtain ⟨r, hr, ⟨hfirst, -, -⟩, rfl⟩ := Text.exists_run_of_caseShift? hshift
      have hlow := hruns r hr
      refine markKept_of_not_isMark hc (List.cons_ne_nil _ _) fun d hd => ?_
      rw [List.mem_singleton.mp hd]
      exact not_isMark_ofNat (by omega)

/-- Characters of ASCII are mapped one by one, and the others as the tables say. -/
theorem markKept_caseChar {ascii : Char → Char} {specials : List (Nat × List Nat)} {runs : List Text.CaseRun}
    (hascii : ∀ n < 128, MarkKept (Char.ofNat n) [ascii (Char.ofNat n)])
    (hspecials : ∀ e ∈ specials, e.2 ≠ [] ∧ ∀ n ∈ e.2, 48 ≤ n)
    (hruns : ∀ r ∈ runs, 48 ≤ (r.1 : Int) + r.2.2.2) (c : Char) :
    MarkKept c (if c.toNat < 128 then [ascii c] else Text.mapCase specials runs c) := by
  split
  · next hlow =>
    have hkept := hascii c.toNat hlow
    rwa [Char.ofNat_toNat] at hkept
  · next hhigh =>
    exact markKept_mapCase hspecials hruns c (not_isMark_of (¬ ·.toNat < 128) (by decide) (by decide) hhigh)

theorem markKept_upperChar (c : Char) : MarkKept c (Text.upperChar c) :=
  markKept_caseChar (by decide +kernel) (by decide +kernel) (by decide +kernel) c

theorem markKept_lowerChar (c : Char) : MarkKept c (Text.lowerChar c) :=
  markKept_caseChar (by decide +kernel) (by decide +kernel) (by decide +kernel) c

theorem markKept_lowerBetween (before : List Char) (c : Char) (after : List Char) :
    MarkKept c (Text.lowerBetween before c after) := by
  rw [Text.lowerBetween]
  split
  · next hsigma =>
    rw [hsigma]
    split
    · decide
    · decide
  · exact markKept_lowerChar c

theorem marksKept_lowerAfter (before cs : List Char) : MarksKept cs (Text.lowerAfter before cs) := by
  induction cs generalizing before with
  | nil => exact .nil
  | cons c rest ih => exact .cons (markKept_lowerBetween before c rest) (ih (c :: before))

/-! ## Formats -/

theorem unmarked_of_refers {r : List Char} {c : Char} (h : Escape.Refers r c) : Unmarked r := by
  cases h with
  | ampersand => decide
  | less => decide
  | greater => decide
  | number hne hdigits hvalid =>
    intro d hd
    simp only [List.mem_cons, List.mem_append, List.not_mem_nil, or_false] at hd
    rcases hd with rfl | rfl | hd | rfl
    · decide
    · decide
    · exact not_isMark_of (·.isDigit = true) (by decide) (by decide) (hdigits d hd)
    · decide

theorem markKept_xmlChar (c : Char) : MarkKept c (Escape.xmlChar c) := by
  by_cases hc : IsMark c
  · rcases hc with rfl | rfl
    · decide
    · decide
  · rcases Escape.xmlChar_cases c with ⟨hform, -, -⟩ | hrefers
    · rw [hform]
      exact markKept_self c
    · exact markKept_of_not_isMark hc hrefers.ne_nil (unmarked_of_refers hrefers)

theorem marksKept_reescapeChars (cs : List Char) : MarksKept cs (Escape.reescapeChars cs) := by
  induction cs with
  | nil => exact .nil
  | cons c rest ih =>
    rw [Escape.reescapeChars_cons]
    refine .cons ?_ ih
    split
    · next hmark =>
      obtain ⟨rfl, -⟩ := Escape.unicodeMark_prefix_cons_iff.mp hmark
      decide
    · exact markKept_self c

/-- Every format but that of query strings keeps the marks. -/
theorem marksKept_apply {f : Format} (hf : f ≠ .query) (s : String) :
    MarksKept s.toList (f.apply s).toList := by
  cases f with
  | upper =>
    rw [Format.apply, Text.toList_upper]
    exact marksKept_flatMap markKept_upperChar s.toList
  | lower =>
    rw [Format.apply, Text.toList_lower]
    exact marksKept_lowerAfter [] s.toList
  | capitalized =>
    rw [Format.apply, Text.capitalize]
    cases hs : s.toList with
    | nil => exact .nil
    | cons c rest =>
      rw [String.toList_ofList]
      exact .cons (markKept_upperChar c) (marksKept_self rest)
  | query => exact absurd rfl hf
  | xml =>
    rw [Format.apply, String.toList_ofList, Escape.xmlEncode_eq]
    exact marksKept_flatMap markKept_xmlChar s.toList

theorem unmarked_of_queryForm {cs : List Char} (h : Escape.QueryForm cs) : Unmarked cs := by
  have hothers : Unmarked ['_', '.', '-', '~', '+'] := by decide
  induction h with
  | nil => exact List.forall_mem_nil _
  | plain hc hrest ih =>
    refine List.forall_mem_cons.mpr ⟨?_, ih⟩
    exact hc.elim (not_isMark_of (·.isAlphanum = true) (by decide) (by decide)) (hothers _)
  | byte hhigh hlow hrest ih =>
    have hdigit {d : Char} (hd : Escape.isUpperDigit d = true) : ¬ IsMark d :=
      not_isMark_of (Escape.isUpperDigit · = true) (by decide) (by decide) hd
    simp only [Unmarked, List.forall_mem_cons]
    exact ⟨by decide, hdigit hhigh, hdigit hlow, ih⟩

theorem not_closes_of_queryForm {cs : List Char} (h : Escape.QueryForm cs) : ¬ Closes cs := by
  intro hcloses
  exact unmarked_of_queryForm h '*' (hcloses.subset List.mem_cons_self) (.inl rfl)

/-- A text in the form of a query string closes no comment. In every other format, and as plain text, a text closes
one exactly if it does so as it is. -/
theorem closes_formatValue_iff (s mode : String) :
    Closes (formatValue (.text s) mode).toList ↔ Closes s.toList ∧ mode ≠ Format.query.name := by
  rw [formatValue]
  cases hmode : Format.ofName? mode with
  | none =>
    have hne : mode ≠ Format.query.name := by
      rintro rfl
      rw [Format.ofName?_name] at hmode
      cases hmode
    exact (and_iff_left hne).symm
  | some f =>
    have hname : f.name = mode := by simpa using List.find?_some (p := fun f : Format => f.name = mode) hmode
    by_cases hf : f = .query
    · subst hf
      have hopen : ¬ Closes (Format.apply s .query).toList := by
        rw [Format.apply, String.toList_ofList]
        exact not_closes_of_queryForm (Escape.queryForm_queryEncode s.toList)
      exact iff_of_false hopen fun hboth => hboth.2 hname.symm
    · have hne : mode ≠ Format.query.name := by
        rintro rfl
        rw [Format.ofName?_name] at hmode
        exact hf (Option.some.inj hmode).symm
      exact (marksKept_apply hf s).closes_iff.trans (and_iff_left hne).symm

end Emission.Header
