import Emission.Escape.Format
import Emission.Proofs.Escape.Sequence
import Emission.Proofs.Text.Utf8

/-!
# Query strings read back

What a reader of a query string makes of it: a plus sign stands for a space and a percent sign with two digits for
a byte, and the bytes are those of a text. Whether a text has a space in it decides how it is encoded, but both ways
come to the same for each of its characters (`queryEncode_eq`). Main statement: `formatValue_query`, the form of a
text in a query string holds nothing but what may stand there, reads back as the text, and is made of the forms of
the text's parts.
-/

namespace Emission.Escape

/-! ## Reading -/

/-- The bytes that a query string stands for. A percent sign without two digits behind it is itself. -/
def queryBytes : List Char → List UInt8
  | '%' :: high :: low :: rest =>
    match Text.readHex? [high, low] with
    | some n => UInt8.ofNat n :: queryBytes rest
    | none => String.utf8EncodeChar '%' ++ queryBytes (high :: low :: rest)
  | '+' :: rest => String.utf8EncodeChar ' ' ++ queryBytes rest
  | c :: rest => String.utf8EncodeChar c ++ queryBytes rest
  | [] => []

/-- What may stand in a query string: letters and digits, four marks and the plus sign, and percent signs with the two
digits of a byte. -/
inductive QueryForm : List Char → Prop
  | nil : QueryForm []
  | plain {c : Char} {rest : List Char} (hc : c.isAlphanum = true ∨ c ∈ ['_', '.', '-', '~', '+'])
      (hrest : QueryForm rest) : QueryForm (c :: rest)
  | byte {high low : Char} {rest : List Char} (hhigh : isUpperDigit high = true)
      (hlow : isUpperDigit low = true) (hrest : QueryForm rest) : QueryForm ('%' :: high :: low :: rest)

theorem queryBytes_cons_of_ne {c : Char} (hpercent : c ≠ '%') (hplus : c ≠ '+') (rest : List Char) :
    queryBytes (c :: rest) = String.utf8EncodeChar c ++ queryBytes rest :=
  queryBytes.eq_3 c rest (fun _ _ _ hc => absurd hc hpercent) hplus

/-! ## One byte -/

theorem percentByte_eq (b : UInt8) :
    percentByte b =
      ['%', Text.HexCase.upper.digit (b.toNat / 16 % 16), Text.HexCase.upper.digit (b.toNat % 16)] := rfl

theorem queryBytes_percentByte (b : UInt8) (rest : List Char) :
    queryBytes (percentByte b ++ rest) = b :: queryBytes rest := by
  have hfit : b.toNat < Nat.pow 16 2 := b.toNat_lt
  have hread : Text.readHex?
      [Text.HexCase.upper.digit (b.toNat / 16 % 16), Text.HexCase.upper.digit (b.toNat % 16)] =
        some b.toNat := Text.readHex?_hexFixed .upper hfit
  rw [percentByte_eq, List.cons_append, List.cons_append, List.singleton_append, queryBytes, hread]
  exact congrArg (· :: queryBytes rest) UInt8.ofNat_toNat

theorem queryBytes_flatMap_percentByte (bs : List UInt8) (rest : List Char) :
    queryBytes (bs.flatMap percentByte ++ rest) = bs ++ queryBytes rest := by
  induction bs with
  | nil => rfl
  | cons b bs ih =>
    rw [List.flatMap_cons, List.append_assoc, queryBytes_percentByte, ih, List.cons_append]

theorem queryForm_flatMap_percentByte (bs : List UInt8) {rest : List Char} (h : QueryForm rest) :
    QueryForm (bs.flatMap percentByte ++ rest) := by
  induction bs with
  | nil => exact h
  | cons b bs ih =>
    rw [List.flatMap_cons, List.append_assoc, percentByte_eq]
    exact .byte (isUpperDigit_digit (Nat.mod_lt _ (by decide))) (isUpperDigit_digit (Nat.mod_lt _ (by decide))) ih

/-! ## One character -/

/-- The form of a character in a query string. -/
def queryChar (c : Char) : List Char :=
  if c = ' ' then ['+']
  else if isUnreserved c then [c]
  else (String.utf8EncodeChar c).flatMap percentByte

theorem mem_of_isUnreserved {c : Char} (h : isUnreserved c = true) :
    c.isAlphanum = true ∨ c ∈ ['_', '.', '-', '~'] := by
  simp only [isUnreserved, Bool.or_eq_true, beq_iff_eq] at h
  simp only [List.mem_cons, List.not_mem_nil, or_false]
  tauto

theorem queryBytes_queryChar (c : Char) (rest : List Char) :
    queryBytes (queryChar c ++ rest) = String.utf8EncodeChar c ++ queryBytes rest := by
  unfold queryChar
  split
  · next hspace =>
    rw [hspace]
    rfl
  · split
    · next hplain =>
      have hne {d : Char} (hd : isUnreserved d = false) : c ≠ d := by
        rintro rfl
        rw [hd] at hplain
        cases hplain
      exact queryBytes_cons_of_ne (hne (by decide)) (hne (by decide)) rest
    · exact queryBytes_flatMap_percentByte _ rest

theorem queryForm_queryChar (c : Char) {rest : List Char} (h : QueryForm rest) :
    QueryForm (queryChar c ++ rest) := by
  unfold queryChar
  split
  · exact .plain (.inr (by decide)) h
  · split
    · next hplain =>
      refine .plain ((mem_of_isUnreserved hplain).imp_right fun hmem => ?_) h
      exact List.mem_append_left ['+'] hmem
    · exact queryForm_flatMap_percentByte _ h

/-! ## Texts -/

theorem space_notMem_percentByte (b : UInt8) : ' ' ∉ percentByte b := by
  have hdigit : ∀ d : Fin 16, ' ' ≠ Text.HexCase.upper.digit d := by decide
  rw [percentByte_eq]
  intro hmem
  simp only [List.mem_cons, List.not_mem_nil, or_false] at hmem
  rcases hmem with hpercent | hhigh | hlow
  · exact absurd hpercent (by decide)
  · exact hdigit ⟨_, Nat.mod_lt (b.toNat / 16) (by decide)⟩ hhigh
  · exact hdigit ⟨_, Nat.mod_lt b.toNat (by decide)⟩ hlow

/-- With or without spaces in the text, each of its characters has its own form. -/
theorem queryEncode_eq (cs : List Char) : queryEncode cs = cs.flatMap queryChar := by
  unfold queryEncode percentEncode
  split
  · -- spaces were kept, and nothing else that was written is a space
    rw [List.map_flatMap]
    refine List.flatMap_congr fun c _ => ?_
    by_cases hc : c = ' '
    · rw [hc]
      rfl
    · have hkept : (isUnreserved c || [' '].contains c) = isUnreserved c := by simp [hc]
      rw [queryChar, if_neg hc, hkept]
      split
      · rw [List.map_singleton, if_neg hc]
      · refine (List.map_congr_left fun d hd => if_neg ?_).trans (List.map_id' _)
        rintro rfl
        obtain ⟨b, -, hb⟩ := List.mem_flatMap.mp hd
        exact space_notMem_percentByte b hb
  · next hspaces =>
    refine List.flatMap_congr fun c hmem => ?_
    have hc : c ≠ ' ' := by
      rintro rfl
      exact hspaces (List.contains_iff_mem.mpr hmem)
    rw [queryChar, if_neg hc, List.contains_nil, Bool.or_false]

theorem queryForm_queryEncode (cs : List Char) : QueryForm (queryEncode cs) := by
  rw [queryEncode_eq]
  induction cs with
  | nil => exact .nil
  | cons c cs ih => exact queryForm_queryChar c ih

theorem queryBytes_queryEncode (cs : List Char) : queryBytes (queryEncode cs) = Text.encodeUtf8 cs := by
  rw [queryEncode_eq]
  induction cs with
  | nil => rfl
  | cons c cs ih => rw [List.flatMap_cons, queryBytes_queryChar, ih]; rfl

/-- The form of a text in a query string holds letters, digits, four marks, plus signs and percent signs with two
digits in upper case. The text comes back when plus signs are read as spaces, percent signs with their digits as
bytes, and all bytes as those of a text; and a text has the forms of its parts one behind the other, wherever its
spaces are. -/
theorem formatValue_query (s : String) :
    QueryForm (formatValue (.text s) "url-encode").toList ∧
      Text.decodeUtf8 (queryBytes (formatValue (.text s) "url-encode").toList) = .ok s ∧
      ∀ t : String, formatValue (.text (s ++ t)) "url-encode" =
        formatValue (.text s) "url-encode" ++ formatValue (.text t) "url-encode" := by
  have hform (t : String) : formatValue (.text t) "url-encode" = .ofList (queryEncode t.toList) := by
    have hname : Format.ofName? "url-encode" = some .query := Format.ofName?_name .query
    rw [formatValue, hname]
    rfl
  refine ⟨?_, ?_, fun t => ?_⟩
  · rw [hform, String.toList_ofList]
    exact queryForm_queryEncode s.toList
  · rw [hform, String.toList_ofList, queryBytes_queryEncode, Text.decodeUtf8_encodeUtf8, String.ofList_toList]
  · rw [hform, hform, hform, ← String.ofList_append, String.toList_append, queryEncode_eq,
      List.flatMap_append, ← queryEncode_eq, ← queryEncode_eq]

/-- A plus sign is told apart from a space. -/
example : formatValue (.text "a+b é") "url-encode" = "a%2Bb+%C3%A9" := by decide +kernel

end Emission.Escape
