import Emission.Escape.Format
import Mathlib.Logic.ExistsUnique

/-!
# References in XML content

What a reader of XML content makes of a text: the references in it stand for characters, each is replaced by
its character in one pass from the left, and nothing that is put in is read again. Main statement:
`formatValue_xml`, the form of a text in XML content has no character in it that the content could not hold,
an ampersand only where a reference begins, and is read back as the text.
-/

namespace Emission.Escape

/-! ## References -/

/-- The reference, as it is written, stands for the character: it has one of the three names, or it gives the
number of the character in decimal digits. -/
inductive Refers : List Char → Char → Prop
  | ampersand : Refers ['&', 'a', 'm', 'p', ';'] '&'
  | less : Refers ['&', 'l', 't', ';'] '<'
  | greater : Refers ['&', 'g', 't', ';'] '>'
  | number {digits : List Char} (hne : digits ≠ []) (hdigits : ∀ d ∈ digits, d.isDigit = true)
      (hvalid : (Nat.ofDigitChars 10 digits 0).isValidChar) :
    Refers ('&' :: '#' :: (digits ++ [';'])) (Char.ofNat (Nat.ofDigitChars 10 digits 0))

/-- The character that a text begins with a reference to, and what follows the reference. -/
def leadingReference? : List Char → Option (Char × List Char)
  | '&' :: 'a' :: 'm' :: 'p' :: ';' :: rest => some ('&', rest)
  | '&' :: 'l' :: 't' :: ';' :: rest => some ('<', rest)
  | '&' :: 'g' :: 't' :: ';' :: rest => some ('>', rest)
  | '&' :: '#' :: rest =>
    let digits := rest.takeWhile Char.isDigit
    let n := Nat.ofDigitChars 10 digits 0
    match rest.dropWhile Char.isDigit with
    | ';' :: after => if digits ≠ [] ∧ n.isValidChar then some (Char.ofNat n, after) else none
    | _ => none
  | _ => none

theorem leadingReference?_number {digits : List Char} (hne : digits ≠ [])
    (hdigits : ∀ d ∈ digits, d.isDigit = true) (hvalid : (Nat.ofDigitChars 10 digits 0).isValidChar)
    (rest : List Char) :
    leadingReference? ('&' :: '#' :: (digits ++ ';' :: rest)) =
      some (Char.ofNat (Nat.ofDigitChars 10 digits 0), rest) := by
  have htake : (digits ++ ';' :: rest).takeWhile Char.isDigit = digits := by
    rw [List.takeWhile_append_of_pos hdigits, List.takeWhile_cons_of_neg (by decide), List.append_nil]
  have hdrop : (digits ++ ';' :: rest).dropWhile Char.isDigit = ';' :: rest := by
    rw [List.dropWhile_append_of_pos hdigits, List.dropWhile_cons_of_neg (by decide)]
  simp only [leadingReference?, htake, hdrop]
  rw [if_pos ⟨hne, hvalid⟩]

/-- A reader finds a reference at the beginning of a text exactly if there is one. -/
theorem leadingReference?_eq_some_iff {cs rest : List Char} {c : Char} :
    leadingReference? cs = some (c, rest) ↔ ∃ r, Refers r c ∧ cs = r ++ rest := by
  constructor
  · -- the reader has a case for each of the four forms, and three that read nothing
    fun_cases leadingReference? cs with
    | case1 after =>
      rintro ⟨⟩
      exact ⟨_, .ampersand, rfl⟩
    | case2 after =>
      rintro ⟨⟩
      exact ⟨_, .less, rfl⟩
    | case3 after =>
      rintro ⟨⟩
      exact ⟨_, .greater, rfl⟩
    | case4 text digits n after hafter hnumber =>
      rintro ⟨⟩
      refine ⟨_, .number hnumber.1 (List.all_eq_true.mp List.all_takeWhile) hnumber.2, ?_⟩
      rw [List.cons_append, List.cons_append, List.append_assoc, List.singleton_append, ← hafter,
        List.takeWhile_append_dropWhile]
    | case5 => nofun
    | case6 => nofun
    | case7 => nofun
  · rintro ⟨r, hr, rfl⟩
    cases hr with
    | ampersand => rfl
    | less => rfl
    | greater => rfl
    | number hne hdigits hvalid =>
      rw [List.cons_append, List.cons_append, List.append_assoc]
      exact leadingReference?_number hne hdigits hvalid rest

theorem Refers.ne_nil {r : List Char} {c : Char} (h : Refers r c) : r ≠ [] := by
  cases h <;> exact List.cons_ne_nil _ _

theorem length_leadingReference? {cs rest : List Char} {c : Char}
    (h : leadingReference? cs = some (c, rest)) : rest.length < cs.length := by
  obtain ⟨r, hr, rfl⟩ := leadingReference?_eq_some_iff.mp h
  rw [List.length_append]
  exact Nat.lt_add_of_pos_left (List.length_pos_iff.mpr hr.ne_nil)

/-- The text with each reference replaced by its character. -/
def resolved (cs : List Char) : List Char :=
  match cs with
  | [] => []
  | c :: rest =>
    match h : leadingReference? (c :: rest) with
    | some (d, after) =>
      have := length_leadingReference? h
      d :: resolved after
    | none => c :: resolved rest
termination_by cs.length
decreasing_by
  · exact this
  · exact Nat.lt_succ_self _

theorem resolved_reference {r : List Char} {c : Char} (h : Refers r c) (rest : List Char) :
    resolved (r ++ rest) = c :: resolved rest := by
  have hfound : leadingReference? (r ++ rest) = some (c, rest) :=
    leadingReference?_eq_some_iff.mpr ⟨r, h, rfl⟩
  cases r with
  | nil => exact absurd rfl h.ne_nil
  | cons d more =>
    rw [List.cons_append] at hfound ⊢
    rw [resolved]
    split
    · next d' after hsome =>
      obtain ⟨rfl, rfl⟩ := Prod.mk.inj (Option.some.inj (hfound.symm.trans hsome))
      rfl
    · next hnone => rw [hfound] at hnone; cases hnone

/-- A reference begins with an ampersand, so any other character is read as itself. -/
theorem resolved_cons {c : Char} (hc : c ≠ '&') (rest : List Char) :
    resolved (c :: rest) = c :: resolved rest := by
  have hnone : leadingReference? (c :: rest) = none := by
    rw [Option.eq_none_iff_forall_ne_some]
    rintro ⟨d, after⟩ hsome
    obtain ⟨r, hr, heq⟩ := leadingReference?_eq_some_iff.mp hsome
    cases hr <;> exact hc (List.cons.inj heq).1
  rw [resolved]
  split
  · next hsome => rw [hnone] at hsome; cases hsome
  · rfl

/-! ## The form of a character -/

/-- A character that XML content can hold apart from markup, in ASCII alone. -/
def Contained (c : Char) : Prop :=
  c ≠ '<' ∧ c ≠ '>' ∧ c.toNat ≤ 0x7F ∧ (c.toNat < 0x20 → c = '\t' ∨ c = '\n' ∨ c = '\r')

instance (c : Char) : Decidable (Contained c) := inferInstanceAs (Decidable (_ ∧ _))

theorem contained_of_isDigit {d : Char} (h : d.isDigit = true) : Contained d := by
  have hbounds : 48 ≤ d.toNat ∧ d.toNat ≤ 57 := by
    simpa [Char.isDigit, UInt32.le_iff_toNat_le] using h
  refine ⟨?_, ?_, by omega, by omega⟩ <;>
  · rintro rfl
    exact absurd hbounds (by decide)

/-- A text is tried character by character, since there are too many characters to try them all. -/
theorem contained_of_all {cs : List Char} (h : cs.all (Contained ·) = true) : ∀ d ∈ cs, Contained d :=
  fun d hd => of_decide_eq_true (List.all_eq_true.mp h d hd)

/-- What a reference is written with. -/
theorem Refers.contained {r : List Char} {c : Char} (h : Refers r c) : ∀ d ∈ r, Contained d := by
  cases h with
  | ampersand => exact contained_of_all (by decide)
  | less => exact contained_of_all (by decide)
  | greater => exact contained_of_all (by decide)
  | number hne hdigits hvalid =>
    intro d hd
    simp only [List.mem_cons, List.mem_append, List.not_mem_nil, or_false] at hd
    rcases hd with rfl | rfl | hd | rfl
    · decide
    · decide
    · exact contained_of_isDigit (hdigits d hd)
    · decide

/-- A reference has an ampersand at its beginning and nowhere else. -/
theorem Refers.eq_nil_of_ampersand {r before after : List Char} {c : Char} (h : Refers r c)
    (hr : r = before ++ '&' :: after) : before = [] := by
  have htail : '&' ∉ r.tail := by
    cases h with
    | ampersand => decide
    | less => decide
    | greater => decide
    | number hne hdigits hvalid =>
      intro hmem
      simp only [List.tail_cons, List.mem_cons, List.mem_append, List.not_mem_nil, or_false] at hmem
      rcases hmem with hmem | hmem | hmem
      · exact absurd hmem (by decide)
      · exact absurd (hdigits _ hmem) (by decide)
      · exact absurd hmem (by decide)
  cases before with
  | nil => rfl
  | cons d front =>
    refine absurd ?_ htail
    rw [hr]
    exact List.mem_append_right front List.mem_cons_self

/-- The form of one character. -/
def xmlChar (c : Char) : List Char := (entity c).flatMap numericReference

theorem xmlEncode_eq (cs : List Char) : xmlEncode cs = cs.flatMap xmlChar := List.flatMap_assoc

theorem refers_numericReference {c : Char} (h : 0x7F < c.toNat ∨ c.toNat < 0x20)
    (hkept : c ≠ '\t' ∧ c ≠ '\n' ∧ c ≠ '\r') : Refers (numericReference c) c := by
  have hform : numericReference c = '&' :: '#' :: (Nat.toDigits 10 c.toNat ++ [';']) :=
    if_pos (h.imp id fun hlow => ⟨hlow, hkept⟩)
  have hnumber : Nat.ofDigitChars 10 (Nat.toDigits 10 c.toNat) 0 = c.toNat :=
    Nat.ofDigitChars_ten_toDigits
  have hdigits : ∀ d ∈ Nat.toDigits 10 c.toNat, d.isDigit = true :=
    fun d hd => Nat.isDigit_of_mem_toDigits (by decide) (by decide) hd
  have hrefers := Refers.number Nat.toDigits_ne_nil hdigits (by rw [hnumber]; exact c.valid)
  rw [hnumber, Char.ofNat_toNat] at hrefers
  rw [hform]
  exact hrefers

/-- A character is written as itself, or as a reference to it. -/
theorem xmlChar_cases (c : Char) : (xmlChar c = [c] ∧ c ≠ '&' ∧ Contained c) ∨ Refers (xmlChar c) c := by
  by_cases hamp : c = '&'
  · subst hamp
    exact .inr .ampersand
  by_cases hless : c = '<'
  · subst hless
    exact .inr .less
  by_cases hgreater : c = '>'
  · subst hgreater
    exact .inr .greater
  have hform : xmlChar c = numericReference c := by
    rw [xmlChar, entity, if_neg hamp, if_neg hless, if_neg hgreater, List.flatMap_singleton]
  rw [hform]
  by_cases hkept : c = '\t' ∨ c = '\n' ∨ c = '\r'
  · refine .inl ?_
    rcases hkept with rfl | rfl | rfl <;> decide
  · have hcontrol : c ≠ '\t' ∧ c ≠ '\n' ∧ c ≠ '\r' := by simpa using hkept
    by_cases hbeyond : 0x7F < c.toNat ∨ c.toNat < 0x20
    · exact .inr (refers_numericReference hbeyond hcontrol)
    · refine .inl ⟨if_neg ?_, hamp, hless, hgreater, by omega, by omega⟩
      rintro (h | ⟨h, -⟩) <;> omega

/-! ## The form of a text -/

theorem contained_xmlEncode (cs : List Char) : ∀ c ∈ xmlEncode cs, Contained c := by
  intro d hd
  rw [xmlEncode_eq, List.mem_flatMap] at hd
  obtain ⟨c, -, hd⟩ := hd
  rcases xmlChar_cases c with ⟨hform, -, hcontained⟩ | hrefers
  · rw [hform, List.mem_singleton] at hd
    rw [hd]
    exact hcontained
  · exact hrefers.contained d hd

theorem resolved_xmlEncode (cs : List Char) : resolved (xmlEncode cs) = cs := by
  rw [xmlEncode_eq]
  induction cs with
  | nil => rw [List.flatMap_nil, resolved]
  | cons c rest ih =>
    rw [List.flatMap_cons]
    rcases xmlChar_cases c with ⟨hform, hamp, -⟩ | hrefers
    · rw [hform, List.singleton_append, resolved_cons hamp, ih]
    · rw [resolved_reference hrefers, ih]

/-- Where an ampersand stands in the form of a text, a reference begins. -/
theorem exists_reference_of_ampersand {cs before after : List Char}
    (h : xmlEncode cs = before ++ '&' :: after) : ∃ r c, Refers r c ∧ r <+: '&' :: after := by
  rw [xmlEncode_eq] at h
  induction cs generalizing before with
  | nil => exact absurd h.symm (List.append_ne_nil_of_right_ne_nil _ (List.cons_ne_nil _ _))
  | cons c rest ih =>
    rw [List.flatMap_cons] at h
    rcases List.append_eq_append_iff.mp h with ⟨between, -, hrest⟩ | ⟨between, hform, hafter⟩
    · -- the ampersand stands in the form of a later character
      exact ih hrest
    · cases between with
      | nil => exact @ih [] hafter.symm
      | cons d more =>
        obtain ⟨rfl, rfl⟩ := List.cons.inj hafter
        rcases xmlChar_cases c with ⟨hself, hamp, -⟩ | hrefers
        · rw [hself] at hform
          have hmem : '&' ∈ [c] := hform ▸ List.mem_append_right before List.mem_cons_self
          exact absurd (List.mem_singleton.mp hmem).symm hamp
        · obtain rfl := hrefers.eq_nil_of_ampersand hform
          rw [List.nil_append] at hform
          exact ⟨xmlChar c, c, hrefers, by rw [hform]; exact List.prefix_append _ _⟩

/-- Of two references that a text begins with, neither can be longer. -/
theorem Refers.eq_of_prefix {r r' text : List Char} {c c' : Char} (h : Refers r c) (h' : Refers r' c')
    (hr : r <+: text) (hr' : r' <+: text) : r = r' := by
  obtain ⟨rest, rfl⟩ := hr
  obtain ⟨rest', heq⟩ := hr'
  have hfirst : leadingReference? (r ++ rest) = some (c, rest) :=
    leadingReference?_eq_some_iff.mpr ⟨r, h, rfl⟩
  have hsecond : leadingReference? (r ++ rest) = some (c', rest') :=
    leadingReference?_eq_some_iff.mpr ⟨r', h', heq.symm⟩
  obtain ⟨-, rfl⟩ := Prod.mk.inj (Option.some.inj (hfirst.symm.trans hsecond))
  exact (List.append_cancel_right heq).symm

/-- The form of a text in XML content holds nothing but ASCII, without angle brackets and without controls other
than tab, line feed and carriage return. Every ampersand in it begins exactly one reference, the text comes back
when the references are replaced by their characters, and a text has the forms of its parts one behind the
other. -/
theorem formatValue_xml (s : String) :
    let form (t : String) : List Char := (formatValue (.text t) "xml-encode").toList
    (∀ c ∈ form s, Contained c) ∧
    (∀ before after, form s = before ++ '&' :: after →
      ∃! r, (∃ c, Refers r c) ∧ r <+: '&' :: after) ∧
    resolved (form s) = s.toList ∧
    ∀ t, form (s ++ t) = form s ++ form t := by
  intro form
  have hform (t : String) : form t = xmlEncode t.toList := by
    have hname : Format.ofName? "xml-encode" = some .xml := Format.ofName?_name .xml
    show (formatValue (.text t) "xml-encode").toList = _
    rw [formatValue, hname]
    exact String.toList_ofList
  simp only [hform]
  refine ⟨contained_xmlEncode s.toList, ?_, resolved_xmlEncode s.toList, ?_⟩
  · intro before after h
    obtain ⟨r, c, hrefers, hprefix⟩ := exists_reference_of_ampersand h
    refine ⟨r, ⟨⟨c, hrefers⟩, hprefix⟩, ?_⟩
    rintro r' ⟨⟨c', hrefers'⟩, hprefix'⟩
    exact hrefers'.eq_of_prefix hrefers hprefix' hprefix
  · intro t
    rw [String.toList_append, xmlEncode_eq, List.flatMap_append, ← xmlEncode_eq, ← xmlEncode_eq]

/-- A text that looks like references is told apart from what the references stand for. -/
example : (formatValue (.text "&lt;\x01é") "xml-encode") = "&amp;lt;&#1;&#233;" := by decide +kernel

end Emission.Escape
