import Emission.Json.Read
import Emission.Json.Write
import Emission.Proofs.Escape.Reading

/-!
# Texts in JSON

A text is read back from what it is written as, whatever its characters and whatever follows. Main statement:
`exists_textForm`.
-/

namespace Emission.Json

open Escape (isHighUnit_toNat toNat_le_maxCodePoint maxCodePoint)

/-! ## Units -/

/-- A unit is written as four digits, and these spell it. -/
theorem exists_unitEscape {n : Nat} (h : n < 0x10000) :
    ∃ a b c d, unitEscape n = ['\\', 'u', a, b, c, d] ∧ unit? a b c d = some n := by
  have hlength : (Text.hexFixed .lower 4 n).length = 4 := Text.length_hexFixed .lower 4 n
  have hread : Text.readHex? (Text.hexFixed .lower 4 n) = some n := Text.readHex?_hexFixed .lower h
  rw [unitEscape]
  match Text.hexFixed .lower 4 n, hlength, hread with
  | [a, b, c, d], _, hread => exact ⟨a, b, c, d, rfl, hread⟩

theorem lowUnit?_unitEscape {n : Nat} (h : n < 0x10000) (hlow : isLowUnit n = true) (rest : List Char) :
    lowUnit? (unitEscape n ++ rest) = some (n, rest) := by
  obtain ⟨a, b, c, d, hform, hunit⟩ := exists_unitEscape h
  rw [hform]
  simp only [List.cons_append, List.nil_append, lowUnit?, hunit, hlow, if_true]

section Step

variable {a b c d : Char} {n low : Nat} {rest rest' : List Char}

theorem readText?_of_not_high (hunit : unit? a b c d = some n) (hhigh : isHighUnit n = false) :
    readText? ('\\' :: 'u' :: a :: b :: c :: d :: rest) =
      (readText? rest).map fun (s, after) => (loneUnit n :: s, after) := by
  rw [readText?, hunit]
  dsimp only
  split
  · next heq =>
    rw [hhigh] at heq
    cases heq
  · rfl

theorem readText?_of_pair (hunit : unit? a b c d = some n) (hhigh : isHighUnit n = true)
    (hlow : lowUnit? rest = some (low, rest')) :
    readText? ('\\' :: 'u' :: a :: b :: c :: d :: rest) =
      (readText? rest').map fun (s, after) => (joinUnits n low :: s, after) := by
  rw [readText?, hunit]
  dsimp only
  split
  · next heq =>
    rw [if_pos hhigh, hlow] at heq
    obtain ⟨rfl, rfl⟩ := Prod.mk.inj (Option.some.inj heq)
    rfl
  · next heq =>
    rw [if_pos hhigh, hlow] at heq
    cases heq

end Step

/-! ## Characters -/

/-- What is read is a character and the text that is read after it. -/
def ReadAs (c : Char) (form : List Char) : Prop :=
  ∀ rest, readText? (form ++ rest) = (readText? rest).map fun (s, after) => (c :: s, after)

/-- A unit that is no half of a pair is a character of its own. -/
theorem readAs_unitEscape {c : Char} (h : c.toNat < 0x10000) : ReadAs c (unitEscape c.toNat) := by
  intro rest
  obtain ⟨a, b, c', d, hform, hunit⟩ := exists_unitEscape h
  have hlone : loneUnit c.toNat = c := by
    have hvalid : c.toNat < 0xD800 ∨ (0xDFFF < c.toNat ∧ c.toNat < 0x110000) := c.valid
    rw [loneUnit, if_neg (by omega), Char.ofNat_toNat]
  rw [hform]
  exact (readText?_of_not_high hunit (isHighUnit_toNat c)).trans (by rw [hlone]; rfl)

/-- The two units of a character beyond the basic plane make it up. -/
theorem readAs_pair {c : Char} {high low : Nat} (hhigh : isHighUnit high = true)
    (hlow : isLowUnit low = true) (hjoin : joinUnits high low = c) :
    ReadAs c (unitEscape high ++ unitEscape low) := by
  intro rest
  have hhigh' : 0xD800 ≤ high ∧ high ≤ 0xDBFF := by simpa [isHighUnit] using hhigh
  have hlow' : 0xDC00 ≤ low ∧ low ≤ 0xDFFF := by simpa [isLowUnit] using hlow
  obtain ⟨a, b, c', d, hform, hunit⟩ := exists_unitEscape (n := high) (by omega)
  have hsecond := lowUnit?_unitEscape (n := low) (by omega) hlow rest
  rw [hform, List.append_assoc, ← hjoin]
  exact readText?_of_pair hunit hhigh hsecond

/-- A character beyond the basic plane is written as a high and a low unit. -/
theorem units_of_beyond {c : Char} (h : 0x10000 ≤ c.toNat) :
    isHighUnit (0xD800 + (c.toNat - 0x10000) / 0x400) = true ∧
      isLowUnit (0xDC00 + (c.toNat - 0x10000) % 0x400) = true ∧
      joinUnits (0xD800 + (c.toNat - 0x10000) / 0x400) (0xDC00 + (c.toNat - 0x10000) % 0x400) = c := by
  have hmax : c.toNat ≤ maxCodePoint := toNat_le_maxCodePoint c
  rw [maxCodePoint] at hmax
  simp only [isHighUnit, isLowUnit, Bool.and_eq_true, decide_eq_true_eq]
  refine ⟨by omega, by omega, ?_⟩
  have hnumber : 0x10000 + (0xD800 + (c.toNat - 0x10000) / 0x400 - 0xD800) * 0x400 +
      (0xDC00 + (c.toNat - 0x10000) % 0x400 - 0xDC00) = c.toNat := by omega
  rw [joinUnits, hnumber, Char.ofNat_toNat]

theorem readAs_self {c : Char} (hquote : c ≠ '"') (hslash : c ≠ '\\') (hcontrol : ' ' ≤ c) :
    ReadAs c [c] := by
  intro rest
  have hnumber : ¬(c.toNat < 0x20 ∨ c = '\\') := by
    rintro (hlt | heq)
    · exact absurd hcontrol (Nat.not_le_of_lt hlt)
    · exact hslash heq
  show readText? (c :: rest) = _
  rw [readText?, if_neg hnumber]
  · exact hquote
  · exact fun _ _ _ _ _ h => absurd h hslash
  · exact fun _ _ h => absurd h hslash

/-- Every character is read as what it is written as. -/
theorem readAs_textChar (c : Char) : ReadAs c (textChar c) := by
  have hescaped (d e : Char) (h : escaped? d = some e) (hd : d ≠ 'u') (hc : c = e) :
      ReadAs c ['\\', d] := by
    intro rest
    subst hc
    show readText? ('\\' :: d :: rest) = _
    rw [readText?, h]
    exact fun _ _ _ _ _ heq => absurd heq hd
  unfold textChar
  dsimp only
  iterate 7
    split
    · exact hescaped _ _ rfl (by decide) ‹_›
  split
  · next hquote hslash _ _ _ _ _ hplain => exact readAs_self hquote hslash hplain.1
  split
  · next hbasic => exact readAs_unitEscape hbasic
  · next hbeyond =>
    obtain ⟨hhigh, hlow, hjoin⟩ := units_of_beyond (Nat.le_of_not_lt hbeyond)
    exact readAs_pair hhigh hlow hjoin

/-! ## Texts -/

theorem readText?_flatMap (cs rest : List Char) :
    readText? (cs.flatMap textChar ++ '"' :: rest) = some (cs, rest) := by
  induction cs with
  | nil =>
    show readText? ('"' :: rest) = some ([], rest)
    rw [readText?]
  | cons c cs ih => rw [List.flatMap_cons, List.append_assoc, readAs_textChar, ih, Option.map_some]

/-- A text starts with a quote, and is read up to the quote that ends it. -/
theorem exists_textForm (s : String) :
    ∃ tail, textForm s = '"' :: tail ∧ ∀ rest, readText? (tail ++ rest) = some (s.toList, rest) := by
  refine ⟨s.toList.flatMap textChar ++ ['"'], rfl, fun rest => ?_⟩
  rw [List.append_assoc]
  exact readText?_flatMap s.toList rest

/-! ## Characters that are written -/

/-- The characters of ASCII that are no controls. -/
def Printable (c : Char) : Prop := ' ' ≤ c ∧ c ≤ '~'

instance (c : Char) : Decidable (Printable c) := inferInstanceAs (Decidable (_ ∧ _))

theorem printable_digit (k : Text.HexCase) {d : Nat} (h : d < 16) : Printable (k.digit d) := by
  have hall : ∀ k : Text.HexCase, ∀ d : Fin 16, Printable (k.digit d) := by
    intro k
    cases k <;> decide
  exact hall k ⟨d, h⟩

theorem printable_hexFixed (k : Text.HexCase) (width n : Nat) :
    ∀ c ∈ Text.hexFixed k width n, Printable c := by
  induction width generalizing n with
  | zero => exact List.forall_mem_nil _
  | succ width ih =>
    intro c hc
    rcases List.mem_append.mp hc with hc | hc
    · exact ih (n / 16) c hc
    · obtain rfl := List.mem_singleton.mp hc
      exact printable_digit k (Nat.mod_lt n (by decide))

theorem printable_unitEscape (n : Nat) : ∀ c ∈ unitEscape n, Printable c :=
  List.forall_mem_cons.mpr ⟨by decide, List.forall_mem_cons.mpr
    ⟨by decide, printable_hexFixed .lower 4 n⟩⟩

theorem printable_textChar (c : Char) : ∀ d ∈ textChar c, Printable d := by
  unfold textChar
  dsimp only
  iterate 7
    split
    · exact List.forall_mem_cons.mpr ⟨by decide, List.forall_mem_singleton.mpr (by decide)⟩
  split
  · next h => exact List.forall_mem_singleton.mpr h
  split
  · exact printable_unitEscape _
  · exact fun d hd => (List.mem_append.mp hd).elim (printable_unitEscape _ d) (printable_unitEscape _ d)

/-- A text is written in printable characters, so on one line. -/
theorem printable_textForm (s : String) : ∀ c ∈ textForm s, Printable c := by
  intro c hc
  rcases List.mem_append.mp hc with hc | hc
  · rcases List.mem_cons.mp hc with rfl | hc
    · decide
    · obtain ⟨d, -, hd⟩ := List.mem_flatMap.mp hc
      exact printable_textChar d c hd
  · obtain rfl := List.mem_singleton.mp hc
    decide

end Emission.Json
