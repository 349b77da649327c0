/-!
# Hexadecimal digits

Fixed-width hexadecimal numbers in both letter cases, and their reader. Main statement:
`readHex?_hexFixed`, a number below `16 ^ width` reads back from its digits.
-/

namespace Emission.Text

/-- Which letters stand for ten to fifteen. -/
inductive HexCase
  | upper
  | lower
  deriving DecidableEq, Repr

/-- The digit of a number below sixteen. -/
def HexCase.digit (k : HexCase) (d : Nat) : Char :=
  if d < 10 then Char.ofNat (48 + d)
  else
    match k with
    | .upper => Char.ofNat (55 + d)
    | .lower => Char.ofNat (87 + d)

/-- Exactly `width` digits of a number, the leading ones zero if it is small. -/
def hexFixed (k : HexCase) : Nat → Nat → List Char
  | 0, _ => []
  | width + 1, n => hexFixed k width (n / 16) ++ [k.digit (n % 16)]

/-- The shortest lower-case digits of a number. -/
def hexShort (n : Nat) : String := .ofList (Nat.toDigits 16 n)

/-- The value of a digit in either case. -/
def hexValue? (c : Char) : Option Nat :=
  if '0' ≤ c ∧ c ≤ '9' then some (c.toNat - 48)
  else if 'A' ≤ c ∧ c ≤ 'F' then some (c.toNat - 55)
  else if 'a' ≤ c ∧ c ≤ 'f' then some (c.toNat - 87)
  else none

def isHexDigit (c : Char) : Bool := (hexValue? c).isSome

/-- The number that a list of digits spells, after the digits already read. -/
def readHexFrom? (seen : Nat) : List Char → Option Nat
  | [] => some seen
  | c :: rest =>
    match hexValue? c with
    | none => none
    | some d => readHexFrom? (16 * seen + d) rest

/-- The number that a list of digits spells. -/
def readHex? (cs : List Char) : Option Nat := readHexFrom? 0 cs

/-! ## Reading what was written -/

@[simp] theorem length_hexFixed (k : HexCase) (width n : Nat) :
    (hexFixed k width n).length = width := by
  induction width generalizing n with
  | zero => rfl
  | succ width ih => simp [hexFixed, ih]

theorem hexValue?_digit (k : HexCase) {d : Nat} (h : d < 16) : hexValue? (k.digit d) = some d := by
  have all : ∀ k : HexCase, ∀ d : Fin 16, hexValue? (k.digit d) = some d.val := by
    intro k
    cases k <;> decide
  exact all k ⟨d, h⟩

theorem readHexFrom?_append (seen : Nat) (cs ds : List Char) :
    readHexFrom? seen (cs ++ ds) = (readHexFrom? seen cs).bind (readHexFrom? · ds) := by
  induction cs generalizing seen with
  | nil => rfl
  | cons c rest ih =>
    simp only [List.cons_append, readHexFrom?]
    cases hexValue? c with
    | none => rfl
    | some d => exact ih _

theorem readHexFrom?_hexFixed (k : HexCase) (width n seen : Nat) (h : n < Nat.pow 16 width) :
    readHexFrom? seen (hexFixed k width n) = some (seen * Nat.pow 16 width + n) := by
  induction width generalizing n with
  | zero =>
    have hn : n = 0 := Nat.lt_one_iff.mp h
    simp [hexFixed, readHexFrom?, hn]
  | succ width ih =>
    have hp : Nat.pow 16 (width + 1) = Nat.pow 16 width * 16 := rfl
    have hq : n / 16 < Nat.pow 16 width := by
      rw [Nat.div_lt_iff_lt_mul (by decide), ← hp]
      exact h
    rw [hexFixed, readHexFrom?_append, ih _ hq, hp]
    simp only [Option.bind_some, readHexFrom?, hexValue?_digit k (Nat.mod_lt n (by decide))]
    congr 1
    rw [← Nat.mul_assoc]
    omega

/-- A number that fits reads back from its digits. -/
theorem readHex?_hexFixed (k : HexCase) {width n : Nat} (h : n < Nat.pow 16 width) :
    readHex? (hexFixed k width n) = some n := by
  simpa [readHex?] using readHexFrom?_hexFixed k width n 0 h

end Emission.Text
