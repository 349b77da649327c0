import Emission.Text.Utf8

/-!
# UTF-8 read back

The bytes of a text read as that text. Main statement: `decodeUtf8_encodeUtf8`. The reader goes through the bytes
of one character after the other (`decodeUtf8From_char`): after the leading byte each further one adds six bits
to the number of the character.
-/

namespace Emission.Text

variable {position code low high more : Nat} {done : List Char} {seen rest : List UInt8} {b : UInt8}

/-! ## One byte -/

theorem decodeUtf8From_ascii (h : b.toNat < 0x80) :
    decodeUtf8From position done .between (b :: rest) =
      decodeUtf8From (position + 1) (Char.ofNat b.toNat :: done) .between rest := by
  rw [decodeUtf8From]
  exact if_pos h

theorem decodeUtf8From_lead (h : ¬b.toNat < 0x80) (hshape : utf8Shape? b.toNat = some (low, high, more)) :
    decodeUtf8From position done .between (b :: rest) =
      decodeUtf8From (position + 1) done (.inside [b] (utf8Payload b.toNat more) more low high) rest := by
  rw [decodeUtf8From]
  simp only [if_neg h, hshape]

theorem decodeUtf8From_more (h : low ≤ b.toNat ∧ b.toNat ≤ high) :
    decodeUtf8From position done (.inside seen code (more + 2) low high) (b :: rest) =
      decodeUtf8From (position + 1) done
        (.inside (seen ++ [b]) (code * 64 + (b.toNat - 0x80)) (more + 1) 0x80 0xBF) rest := by
  rw [decodeUtf8From]
  exact if_pos h

theorem decodeUtf8From_last (h : low ≤ b.toNat ∧ b.toNat ≤ high) :
    decodeUtf8From position done (.inside seen code 1 low high) (b :: rest) =
      decodeUtf8From (position + 1) (Char.ofNat (code * 64 + (b.toNat - 0x80)) :: done) .between rest := by
  rw [decodeUtf8From]
  exact if_pos h

/-! ## One character -/

section Lengths

variable {n : Nat}

theorem toNat_byte {k : Nat} (h : k < 256) : (UInt8.ofNat k).toNat = k := UInt8.toNat_ofNat_of_lt' h

/-- The bytes behind the leading one hold six bits each. -/
theorem toNat_continuation (k : Nat) : (UInt8.ofNat (k % 0x40 + 0x80)).toNat = k % 64 + 0x80 :=
  toNat_byte (by omega)

theorem continuation_bounds (k : Nat) :
    0x80 ≤ (UInt8.ofNat (k % 0x40 + 0x80)).toNat ∧ (UInt8.ofNat (k % 0x40 + 0x80)).toNat ≤ 0xBF := by
  rw [toNat_continuation]
  omega

theorem decodeUtf8From_two (hlow : 0x7F < n) (hhigh : n ≤ 0x7FF) :
    decodeUtf8From position done .between
        (UInt8.ofNat (n / 64 % 0x20 + 0xC0) :: UInt8.ofNat (n % 0x40 + 0x80) :: rest) =
      decodeUtf8From (position + 2) (Char.ofNat n :: done) .between rest := by
  have hlead : (UInt8.ofNat (n / 64 % 0x20 + 0xC0)).toNat = n / 64 + 0xC0 := by
    rw [toNat_byte] <;> omega
  have hshape : utf8Shape? (n / 64 + 0xC0) = some (0x80, 0xBF, 1) := by
    rw [utf8Shape?, if_pos]
    omega
  have hcode : utf8Payload (n / 64 + 0xC0) 1 * 64 + (n % 64 + 0x80 - 0x80) = n := by
    show (n / 64 + 0xC0 - 0xC0) * 64 + _ = n
    omega
  rw [decodeUtf8From_lead (by omega) (hlead ▸ hshape), decodeUtf8From_last (continuation_bounds n), hlead,
    toNat_continuation, hcode]

/-- The smallest second byte leaves out what has a shorter form, the largest one leaves out the surrogates. -/
theorem decodeUtf8From_three (hlow : 0x7FF < n) (hhigh : n ≤ 0xFFFF) (hvalid : n < 0xD800 ∨ 0xDFFF < n) :
    decodeUtf8From position done .between
        (UInt8.ofNat (n / 4096 % 0x10 + 0xE0) :: UInt8.ofNat (n / 64 % 0x40 + 0x80) ::
          UInt8.ofNat (n % 0x40 + 0x80) :: rest) =
      decodeUtf8From (position + 3) (Char.ofNat n :: done) .between rest := by
  have hlead : (UInt8.ofNat (n / 4096 % 0x10 + 0xE0)).toNat = n / 4096 + 0xE0 := by
    rw [toNat_byte] <;> omega
  have hshape : ∃ low high, utf8Shape? (n / 4096 + 0xE0) = some (low, high, 2) ∧
      low ≤ (UInt8.ofNat (n / 64 % 0x40 + 0x80)).toNat ∧
      (UInt8.ofNat (n / 64 % 0x40 + 0x80)).toNat ≤ high := by
    rw [toNat_continuation]
    unfold utf8Shape?
    rw [if_neg (by omega)]
    split
    · exact ⟨0xA0, 0xBF, rfl, by omega, by omega⟩
    · split
      · exact ⟨0x80, 0x9F, rfl, by omega, by omega⟩
      · rw [if_pos (by omega)]
        exact ⟨0x80, 0xBF, rfl, by omega, by omega⟩
  obtain ⟨low, high, hshape, hsecond⟩ := hshape
  have hcode : (utf8Payload (n / 4096 + 0xE0) 2 * 64 + (n / 64 % 64 + 0x80 - 0x80)) * 64 +
      (n % 64 + 0x80 - 0x80) = n := by
    show ((n / 4096 + 0xE0 - 0xE0) * 64 + _) * 64 + _ = n
    omega
  rw [decodeUtf8From_lead (by omega) (hlead ▸ hshape), decodeUtf8From_more hsecond,
    decodeUtf8From_last (continuation_bounds n), hlead, toNat_continuation, toNat_continuation, hcode]

/-- The smallest second byte leaves out what has a shorter form, the largest one what is beyond the last
character. -/
theorem decodeUtf8From_four (hlow : 0xFFFF < n) (hhigh : n < 0x110000) :
    decodeUtf8From position done .between
        (UInt8.ofNat (n / 262144 % 0x08 + 0xF0) :: UInt8.ofNat (n / 4096 % 0x40 + 0x80) ::
          UInt8.ofNat (n / 64 % 0x40 + 0x80) :: UInt8.ofNat (n % 0x40 + 0x80) :: rest) =
      decodeUtf8From (position + 4) (Char.ofNat n :: done) .between rest := by
  have hlead : (UInt8.ofNat (n / 262144 % 0x08 + 0xF0)).toNat = n / 262144 + 0xF0 := by
    rw [toNat_byte] <;> omega
  have hshape : ∃ low high, utf8Shape? (n / 262144 + 0xF0) = some (low, high, 3) ∧
      low ≤ (UInt8.ofNat (n / 4096 % 0x40 + 0x80)).toNat ∧
      (UInt8.ofNat (n / 4096 % 0x40 + 0x80)).toNat ≤ high := by
    rw [toNat_continuation]
    unfold utf8Shape?
    rw [if_neg (by omega), if_neg (by omega), if_neg (by omega), if_neg (by omega)]
    split
    · exact ⟨0x90, 0xBF, rfl, by omega, by omega⟩
    · split
      · exact ⟨0x80, 0xBF, rfl, by omega, by omega⟩
      · rw [if_pos (by omega)]
        exact ⟨0x80, 0x8F, rfl, by omega, by omega⟩
  obtain ⟨low, high, hshape, hsecond⟩ := hshape
  have hcode : ((utf8Payload (n / 262144 + 0xF0) 3 * 64 + (n / 4096 % 64 + 0x80 - 0x80)) * 64 +
      (n / 64 % 64 + 0x80 - 0x80)) * 64 + (n % 64 + 0x80 - 0x80) = n := by
    show (((n / 262144 + 0xF0 - 0xF0) * 64 + _) * 64 + _) * 64 + _ = n
    omega
  rw [decodeUtf8From_lead (by omega) (hlead ▸ hshape), decodeUtf8From_more hsecond,
    decodeUtf8From_more (continuation_bounds (n / 64)), decodeUtf8From_last (continuation_bounds n), hlead,
    toNat_continuation, toNat_continuation, toNat_continuation, hcode]

end Lengths

/-- The bytes of a character are read as that character. -/
theorem decodeUtf8From_char (position : Nat) (done : List Char) (c : Char) (rest : List UInt8) :
    decodeUtf8From position done .between (String.utf8EncodeChar c ++ rest) =
      decodeUtf8From (position + (String.utf8EncodeChar c).length) (c :: done) .between rest := by
  have hvalid : c.val.toNat < 0xD800 ∨ (0xDFFF < c.val.toNat ∧ c.val.toNat < 0x110000) := c.valid
  have hc : Char.ofNat c.val.toNat = c := Char.ofNat_toNat c
  simp only [String.utf8EncodeChar]
  split
  · next hone =>
    have hbyte : (UInt8.ofNat c.val.toNat).toNat = c.val.toNat := toNat_byte (by omega)
    rw [List.singleton_append, decodeUtf8From_ascii (by omega), hbyte, hc]
    rfl
  · next hone =>
    split
    · next htwo =>
      rw [← congrArg (· :: done) hc]
      exact decodeUtf8From_two (by omega) htwo
    · next htwo =>
      split
      · next hthree =>
        rw [← congrArg (· :: done) hc]
        exact decodeUtf8From_three (by omega) hthree (by omega)
      · next hthree =>
        rw [← congrArg (· :: done) hc]
        exact decodeUtf8From_four (by omega) (by omega)

/-! ## Texts -/

theorem encodeUtf8_append (cs ds : List Char) : encodeUtf8 (cs ++ ds) = encodeUtf8 cs ++ encodeUtf8 ds :=
  List.flatMap_append

theorem decodeUtf8From_encodeUtf8 (position : Nat) (done cs : List Char) :
    decodeUtf8From position done .between (encodeUtf8 cs) = .ok (done.reverse ++ cs) := by
  induction cs generalizing position done with
  | nil => simp [encodeUtf8, decodeUtf8From]
  | cons c cs ih =>
    have hstep := decodeUtf8From_char position done c (encodeUtf8 cs)
    rw [ih, List.reverse_cons, List.append_assoc, List.singleton_append] at hstep
    exact hstep

/-- The bytes of a text are read as the text. -/
theorem decodeUtf8_encodeUtf8 (cs : List Char) : decodeUtf8 (encodeUtf8 cs) = .ok (.ofList cs) := by
  rw [decodeUtf8, decodeUtf8From_encodeUtf8]
  rfl

end Emission.Text
