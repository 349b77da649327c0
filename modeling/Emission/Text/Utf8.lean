/-!
# UTF-8

Texts as bytes. Reading fails at the first byte sequence that is not the encoding of a character, and
the failure says where that sequence stands and what is wrong with it.
-/

namespace Emission.Text

def encodeUtf8 (cs : List Char) : List UInt8 := cs.flatMap String.utf8EncodeChar

/-- What is wrong with a byte sequence. -/
inductive Utf8Flaw
  | badStart
  | badContinuation
  | endsEarly
  deriving DecidableEq, Repr

def Utf8Flaw.text : Utf8Flaw → String
  | .badStart => "invalid start byte"
  | .badContinuation => "invalid continuation byte"
  | .endsEarly => "unexpected end of data"

/-- A malformed sequence: its position, its bytes and its flaw. -/
structure Utf8Fault where
  position : Nat
  bytes : List UInt8
  flaw : Utf8Flaw
  deriving DecidableEq, Repr

/-- The smallest and largest second byte after a leading byte of a longer sequence, with the number of
bytes that follow the leading one. -/
def utf8Shape? (lead : Nat) : Option (Nat × Nat × Nat) :=
  if 0xC2 ≤ lead ∧ lead ≤ 0xDF then some (0x80, 0xBF, 1)
  else if lead = 0xE0 then some (0xA0, 0xBF, 2)
  else if lead = 0xED then some (0x80, 0x9F, 2)
  else if 0xE1 ≤ lead ∧ lead ≤ 0xEF then some (0x80, 0xBF, 2)
  else if lead = 0xF0 then some (0x90, 0xBF, 3)
  else if 0xF1 ≤ lead ∧ lead ≤ 0xF3 then some (0x80, 0xBF, 3)
  else if lead = 0xF4 then some (0x80, 0x8F, 3)
  else none

/-- The payload of a leading byte that `more` bytes follow. -/
def utf8Payload (lead more : Nat) : Nat :=
  match more with
  | 1 => lead - 0xC0
  | 2 => lead - 0xE0
  | _ => lead - 0xF0

/-- Where a reader of bytes stands: between characters, or inside a sequence of which the bytes `seen`
are read and `more` are missing, the next of them between `low` and `high`. -/
inductive Utf8State
  | between
  | inside (seen : List UInt8) (code more low high : Nat)

/-- Reads bytes that start at `position`, collecting the characters in reverse. -/
def decodeUtf8From (position : Nat) (done : List Char) :
    Utf8State → List UInt8 → Except Utf8Fault (List Char)
  | .between, [] => .ok done.reverse
  | .inside seen _ _ _ _, [] => .error ⟨position - seen.length, seen, .endsEarly⟩
  | .between, b :: rest =>
    let n := b.toNat
    if n < 0x80 then decodeUtf8From (position + 1) (Char.ofNat n :: done) .between rest
    else
      match utf8Shape? n with
      | none => .error ⟨position, [b], .badStart⟩
      | some (low, high, more) =>
        decodeUtf8From (position + 1) done (.inside [b] (utf8Payload n more) more low high) rest
  | .inside seen code more low high, b :: rest =>
    let n := b.toNat
    if low ≤ n ∧ n ≤ high then
      let code := code * 64 + (n - 0x80)
      match more with
      | 0 | 1 => decodeUtf8From (position + 1) (Char.ofNat code :: done) .between rest
      | more + 1 =>
        decodeUtf8From (position + 1) done (.inside (seen ++ [b]) code more 0x80 0xBF) rest
    else .error ⟨position - seen.length, seen, .badContinuation⟩

/-- The text that a sequence of bytes encodes. -/
def decodeUtf8 (bytes : List UInt8) : Except Utf8Fault String :=
  (decodeUtf8From 0 [] .between bytes).map String.ofList

end Emission.Text
