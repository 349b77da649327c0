import Emission.Escape.CodePoint

/-!
# Reading code-point escapes

The other direction of `escapeCode`. A piece of escaped text is a whole code point or one unit of four
digits, and `joinPieces` puts a high unit together with the low unit that follows it. Main statement:
`joinPieces_codePieces_append`, the pieces that a character is written as come back as that character,
whatever follows.
-/

namespace Emission.Escape

/-- What one step of reading gives: a code point, or a unit that may be half of one. -/
inductive Piece
  | code (n : Nat)
  | unit (n : Nat)
  deriving DecidableEq, Repr

def isHighUnit (n : Nat) : Bool := 0xD800 ≤ n && n ≤ 0xDBFF

def isLowUnit (n : Nat) : Bool := 0xDC00 ≤ n && n ≤ 0xDFFF

/-- The code points that pieces spell; a high unit right before a low one makes one code point with it. -/
def joinPieces : List Piece → List Nat
  | [] => []
  | .code n :: rest => n :: joinPieces rest
  | .unit h :: .unit l :: rest =>
    if isHighUnit h && isLowUnit l then
      (0x10000 + (h - 0xD800) * 0x400 + (l - 0xDC00)) :: joinPieces rest
    else h :: joinPieces (.unit l :: rest)
  | .unit n :: rest => n :: joinPieces rest

/-- The number in the next `width` hexadecimal digits. -/
def hexField? (width : Nat) (cs : List Char) : Option Nat :=
  let digits := cs.take width
  if digits.length = width then Text.readHex? digits else none

/-- The pieces that the escape of a code point is read as. -/
def codePieces (style : CodePointStyle) (n : Nat) : List Piece :=
  if n ≤ maxBasic then [.unit n]
  else
    match style with
    | .units => [.unit (0xD800 + (n - 0x10000) / 0x400), .unit (0xDC00 + (n - 0x10000) % 0x400)]
    | .wide => [.code n]

theorem hexField?_hexFixed (k : Text.HexCase) {width n : Nat} (h : n < Nat.pow 16 width)
    (rest : List Char) : hexField? width (Text.hexFixed k width n ++ rest) = some n := by
  have htake : (Text.hexFixed k width n ++ rest).take width = Text.hexFixed k width n := by
    rw [List.take_append_of_le_length (by simp)]
    exact List.take_of_length_le (by simp)
  simp [hexField?, htake, Text.readHex?_hexFixed k h]

theorem drop_hexFixed (k : Text.HexCase) (width n : Nat) (rest : List Char) :
    (Text.hexFixed k width n ++ rest).drop width = rest := by
  rw [List.drop_append_of_le_length (by simp), List.drop_of_length_le (by simp), List.nil_append]

/-- A unit that is no high one stands alone. -/
theorem joinPieces_unit_of_not_high {n : Nat} (h : isHighUnit n = false) (rest : List Piece) :
    joinPieces (.unit n :: rest) = n :: joinPieces rest := by
  cases rest with
  | nil => rfl
  | cons p more =>
    cases p with
    | code m => rfl
    | unit m => simp [joinPieces, h]

/-- The two units of a code point beyond the basic plane make up that code point. -/
theorem joinPieces_pair {n : Nat} (hlow : maxBasic < n) (hhigh : n ≤ maxCodePoint)
    (rest : List Piece) :
    joinPieces (.unit (0xD800 + (n - 0x10000) / 0x400) ::
      .unit (0xDC00 + (n - 0x10000) % 0x400) :: rest) = n :: joinPieces rest := by
  simp only [maxBasic, maxCodePoint] at hlow hhigh
  have hh : isHighUnit (0xD800 + (n - 0x10000) / 0x400) = true := by
    simp only [isHighUnit, Bool.and_eq_true, decide_eq_true_eq]
    omega
  have hl : isLowUnit (0xDC00 + (n - 0x10000) % 0x400) = true := by
    simp only [isLowUnit, Bool.and_eq_true, decide_eq_true_eq]
    omega
  have hn : 0x10000 + (0xD800 + (n - 0x10000) / 0x400 - 0xD800) * 0x400
      + (0xDC00 + (n - 0x10000) % 0x400 - 0xDC00) = n := by omega
  rw [joinPieces, hh, hl, hn]
  rfl

/-- No character is half of a pair. -/
theorem isHighUnit_toNat (c : Char) : isHighUnit c.toNat = false := by
  have hv : c.toNat < 0xD800 ∨ (0xDFFF < c.toNat ∧ c.toNat < 0x110000) := c.valid
  simp only [isHighUnit, Bool.and_eq_false_iff, decide_eq_false_iff_not]
  omega

theorem toNat_le_maxCodePoint (c : Char) : c.toNat ≤ maxCodePoint := by
  have hv : c.toNat < 0xD800 ∨ (0xDFFF < c.toNat ∧ c.toNat < 0x110000) := c.valid
  simp only [maxCodePoint]
  omega

/-- The pieces of a character's escape come back as the character, whatever follows. -/
theorem joinPieces_codePieces_append (style : CodePointStyle) (c : Char) (rest : List Piece) :
    joinPieces (codePieces style c.toNat ++ rest) = c.toNat :: joinPieces rest := by
  unfold codePieces
  by_cases hb : c.toNat ≤ maxBasic
  · rw [if_pos hb]
    exact joinPieces_unit_of_not_high (isHighUnit_toNat c) rest
  · rw [if_neg hb]
    cases style with
    | units => exact joinPieces_pair (by omega) (toNat_le_maxCodePoint c) rest
    | wide => rfl

end Emission.Escape
