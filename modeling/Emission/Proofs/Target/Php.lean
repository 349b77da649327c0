import Emission.Proofs.Escape.Sequence
import Emission.Proofs.Text.Utf8
import Emission.Target.Php

/-!
# What PHP reads from a literal

A reader of double-quoted literals as PHP has them, and what it makes of the literals that the PHP target writes.
The reader knows the short escapes and replaces no variable, for the dollar sign is escaped, but the escape of a code
point is none that it knows: a backslash and a `u` without a brace behind them stay as they are. Main statement:
`readQuoted_literal`, every character that is written as such an escape is read as the characters of the escape, and
the text is read as it was exactly if there is no such character in it.
-/

namespace Emission.Target.Php

open Escape (isPlain escapeChar escapeCode unitEscape)
open Text (encodeUtf8)

/-! ## The reader -/

/-- Why a text is no literal with a value of its own. -/
inductive Flaw
  | unclosed
  /-- The value of a variable is put into it. -/
  | interpolates
  /-- A code point in braces that is none. -/
  | badCodePoint
  deriving DecidableEq, Repr

/-- The character that a backslash with this character stands for. -/
def shortEscaped? : Char → Option Char
  | 'n' => some '\n'
  | 'r' => some '\r'
  | 't' => some '\t'
  | 'v' => some '\x0b'
  | 'e' => some '\x1b'
  | 'f' => some '\x0c'
  | '\\' => some '\\'
  | '$' => some '$'
  | '"' => some '"'
  | _ => none

def isOctalDigit (c : Char) : Bool := '0' ≤ c && c ≤ '7'

/-- The bytes of a code point; that of a surrogate is encoded like any other. -/
def codePointBytes (n : Nat) : List UInt8 :=
  if n < 0x80 then [.ofNat n]
  else if n < 0x800 then [.ofNat (0xC0 + n / 64), .ofNat (0x80 + n % 64)]
  else if n < 0x10000 then
    [.ofNat (0xE0 + n / 4096), .ofNat (0x80 + n / 64 % 64), .ofNat (0x80 + n % 64)]
  else
    [.ofNat (0xF0 + n / 262144), .ofNat (0x80 + n / 4096 % 64), .ofNat (0x80 + n / 64 % 64),
      .ofNat (0x80 + n % 64)]

/-- A code point in hexadecimal digits up to a closing brace, and what follows it. -/
def bracedCodePoint (cs : List Char) : Except Flaw (List UInt8 × List Char) :=
  let digits := cs.takeWhile Text.isHexDigit
  match Text.readHex? digits, cs.drop digits.length with
  | some n, '\x7d' :: rest =>
    if digits = [] ∨ n > Escape.maxCodePoint then .error .badCodePoint else .ok (codePointBytes n, rest)
  | _, _ => .error .badCodePoint

/-- The bytes that a backslash and what stands behind it are read as, and what follows. Up to three octal digits, or
`x` with up to two hexadecimal ones, are the number of a byte. A backslash that begins no escape stays, and so does
the character behind it. -/
def readEscape : List Char → Except Flaw (List UInt8 × List Char)
  | [] => .error .unclosed
  | c :: rest =>
    let octal := ((c :: rest).take 3).takeWhile isOctalDigit
    let hex := (rest.take 2).takeWhile Text.isHexDigit
    match shortEscaped? c with
    | some d => .ok (encodeUtf8 [d], rest)
    | none =>
      if octal ≠ [] then .ok ([.ofNat (Nat.ofDigitChars 8 octal 0)], (c :: rest).drop octal.length)
      else if c = 'x' ∧ hex ≠ [] then .ok ([.ofNat ((Text.readHex? hex).getD 0)], rest.drop hex.length)
      else if c = 'u' ∧ rest.head? = some '\x7b' then bracedCodePoint rest.tail
      else .ok (encodeUtf8 ['\\', c], rest)

/-- The names of variables begin with a letter, an underscore or a character beyond ASCII. -/
def beginsName (c : Char) : Bool := c.isAlpha || c == '_' || 0x7F < c.toNat

/-- The value of a variable is put in where a character stands before this text. -/
def interpolates (c : Char) (rest : List Char) : Bool :=
  c == '$' && rest.head?.any (fun d => beginsName d || d == '\x7b') ||
    c == '\x7b' && rest.head? == some '$'

theorem length_bracedCodePoint {cs rest : List Char} {bs : List UInt8}
    (h : bracedCodePoint cs = .ok (bs, rest)) : rest.length < cs.length := by
  unfold bracedCodePoint at h
  dsimp only at h
  split at h
  · next n after hread hafter =>
    split at h
    · cases h
    · obtain ⟨-, rfl⟩ := Prod.mk.inj (Except.ok.inj h)
      have hlength := congrArg List.length hafter
      rw [List.length_drop, List.length_cons] at hlength
      omega
  · cases h

theorem length_readEscape {cs rest : List Char} {bs : List UInt8} (h : readEscape cs = .ok (bs, rest)) :
    rest.length < cs.length := by
  cases cs with
  | nil => cases h
  | cons c more =>
    rw [List.length_cons, Nat.lt_succ_iff]
    unfold readEscape at h
    dsimp only at h
    split at h
    · obtain ⟨-, rfl⟩ := Prod.mk.inj (Except.ok.inj h)
      exact Nat.le_refl _
    · split at h
      · next hoctal =>
        obtain ⟨-, rfl⟩ := Prod.mk.inj (Except.ok.inj h)
        have := List.length_pos_iff.mpr hoctal
        rw [List.length_drop, List.length_cons]
        omega
      · split at h
        · obtain ⟨-, rfl⟩ := Prod.mk.inj (Except.ok.inj h)
          rw [List.length_drop]
          exact Nat.sub_le _ _
        · split at h
          · have := length_bracedCodePoint h
            rw [List.length_tail] at this
            omega
          · obtain ⟨-, rfl⟩ := Prod.mk.inj (Except.ok.inj h)
            exact Nat.le_refl _

/-- The bytes up to the closing quote, and what follows it. -/
def readInside (cs : List Char) : Except Flaw (List UInt8 × List Char) :=
  match cs with
  | [] => .error .unclosed
  | c :: rest =>
    if c = '"' then .ok ([], rest)
    else if c = '\\' then
      match h : readEscape rest with
      | .error e => .error e
      | .ok (bs, after) =>
        have := length_readEscape h
        (readInside after).map fun (more, behind) => (bs ++ more, behind)
    else if interpolates c rest then .error .interpolates
    else (readInside rest).map fun (more, behind) => (encodeUtf8 [c] ++ more, behind)
termination_by cs.length
decreasing_by all_goals simp only [List.length_cons]; omega

/-- The bytes of the double-quoted literal that a text begins with, and what follows it. -/
def readQuoted : List Char → Except Flaw (List UInt8 × List Char)
  | '"' :: rest => readInside rest
  | _ => .error .unclosed

-- a brace makes the difference between the escape of a code point and a backslash that stays
example : readQuoted "\"\\x41\\u\x7be9\x7d\\101\\u00e9\";".toList =
    .ok (encodeUtf8 "AéA\\u00e9".toList, [';']) := by cbv

example : readQuoted "\"$a\"".toList = .error .interpolates := by cbv

/-! ## Reading what is written -/

/-- These characters of a literal are read as these bytes, and reading goes on behind them. They do not begin with a
dollar sign, which would have to be told apart from one that belongs to what stands before. -/
def Reads (cs : List Char) (bs : List UInt8) : Prop :=
  cs.head? ≠ some '$' ∧ ∀ rest : List Char, rest.head? ≠ some '$' →
    readInside (cs ++ rest) = (readInside rest).map fun (more, behind) => (bs ++ more, behind)

namespace Reads

theorem nil : Reads [] [] := by
  refine ⟨nofun, fun rest _ => ?_⟩
  rw [List.nil_append]
  cases readInside rest <;> rfl

theorem append {cs ds : List Char} {bs more : List UInt8} (h : Reads cs bs) (h' : Reads ds more) :
    Reads (cs ++ ds) (bs ++ more) := by
  have hhead {rest : List Char} (hrest : rest.head? ≠ some '$') : (ds ++ rest).head? ≠ some '$' := by
    cases ds with
    | nil => exact hrest
    | cons d ds => exact h'.1
  constructor
  · cases cs with
    | nil => exact h'.1
    | cons c cs => exact h.1
  · intro rest hrest
    rw [List.append_assoc, h.2 _ (hhead hrest), h'.2 rest hrest]
    cases readInside rest with
    | error e => rfl
    | ok read =>
      show Except.ok (bs ++ (more ++ read.1), read.2) = .ok (bs ++ more ++ read.1, read.2)
      rw [List.append_assoc]

theorem flatMap {α : Type} {xs : List α} {f : α → List Char} {g : α → List UInt8}
    (h : ∀ x ∈ xs, Reads (f x) (g x)) : Reads (xs.flatMap f) (xs.flatMap g) := by
  induction xs with
  | nil => exact nil
  | cons x xs ih =>
    obtain ⟨hfirst, hrest⟩ := List.forall_mem_cons.mp h
    exact hfirst.append (ih hrest)

/-- A character that means nothing else is itself. -/
theorem plain {c : Char} (hquote : c ≠ '"') (hslash : c ≠ '\\') (hdollar : c ≠ '$') :
    Reads [c] (encodeUtf8 [c]) := by
  refine ⟨fun h => hdollar (Option.some.inj h), fun rest hrest => ?_⟩
  have hvariable : interpolates c rest = false := by
    rw [interpolates, Bool.or_eq_false_iff, Bool.and_eq_false_iff, Bool.and_eq_false_iff]
    exact ⟨.inl (beq_false_of_ne hdollar), .inr (beq_false_of_ne hrest)⟩
  rw [List.singleton_append, readInside, if_neg hquote, if_neg hslash, hvariable]
  rfl

theorem backslash {c : Char} {rest after : List Char} {bs : List UInt8}
    (h : readEscape (c :: rest) = .ok (bs, after)) :
    readInside ('\\' :: c :: rest) =
      (readInside after).map fun (more, behind) => (bs ++ more, behind) := by
  rw [readInside, if_neg (by decide), if_pos rfl]
  split
  · next e herror =>
    rw [h] at herror
    cases herror
  · next bs' after' hok =>
    obtain ⟨rfl, rfl⟩ := Prod.mk.inj (Except.ok.inj (h.symm.trans hok))
    rfl

theorem short {c d : Char} (h : shortEscaped? c = some d) : Reads ['\\', c] (encodeUtf8 [d]) := by
  refine ⟨nofun, fun rest _ => backslash ?_⟩
  rw [readEscape]
  simp only [h]
  rfl

/-- Digits are themselves. -/
theorem digits {ds : List Char} (h : ds.all Escape.isUpperDigit = true) : Reads ds (encodeUtf8 ds) := by
  induction ds with
  | nil => exact nil
  | cons d ds ih =>
    rw [List.all_cons, Bool.and_eq_true] at h
    have hne {c : Char} (hc : Escape.isUpperDigit c = false) : d ≠ c := by
      rintro rfl
      rw [hc] at h
      cases h.1
    rw [← List.singleton_append, Text.encodeUtf8_append]
    exact (plain (hne (by decide)) (hne (by decide)) (hne (by decide))).append (ih h.2)

/-- A backslash with a `u` and a digit behind it begins no escape. -/
theorem unit (n : Nat) : Reads (unitEscape n) (encodeUtf8 (unitEscape n)) := by
  have hdigits : (Text.hexFixed .upper 4 n).all Escape.isUpperDigit = true :=
    Escape.all_isUpperDigit_hexFixed 4 n
  have hlength : (Text.hexFixed .upper 4 n).length = 4 := Text.length_hexFixed .upper 4 n
  rw [unitEscape]
  revert hdigits hlength
  generalize Text.hexFixed .upper 4 n = ds
  intro hdigits hlength
  have hhead : ('\\' :: 'u' :: ds).head? ≠ some '$' := by
    intro heq
    cases heq
  refine ⟨hhead, fun rest hrest => ?_⟩
  have hbrace : (ds ++ rest).head? ≠ some '\x7b' := by
    cases ds with
    | nil => cases hlength
    | cons d ds =>
      intro hhead
      obtain rfl := Option.some.inj hhead
      rw [List.all_cons] at hdigits
      cases hdigits
  have hescape : readEscape ('u' :: (ds ++ rest)) = .ok (encodeUtf8 ['\\', 'u'], ds ++ rest) := by
    have hoctal : (('u' :: (ds ++ rest)).take 3).takeWhile isOctalDigit = [] := rfl
    rw [readEscape]
    simp only [hoctal, hbrace]
    rfl
  rw [List.cons_append, List.cons_append, backslash hescape, (digits hdigits).2 rest hrest]
  cases readInside rest <;> rfl

theorem code (n : Nat) : Reads (escapeCode .units n) (encodeUtf8 (escapeCode .units n)) := by
  unfold escapeCode
  split
  · exact unit n
  · rw [Text.encodeUtf8_append]
    exact (unit _).append (unit _)

end Reads

/-! ## What is understood -/

/-- The characters that are not written as escapes of their code points: printable ASCII and those with a short
escape. -/
def Understood (c : Char) : Prop := isPlain c = true ∨ c ∈ ['\n', '\r', '\t']

instance : DecidablePred Understood := fun c => inferInstanceAs (Decidable (isPlain c = true ∨ c ∈ _))

/-- The characters that PHP reads for a character of the text. -/
def spelled (c : Char) : List Char := if Understood c then [c] else escapeCode .units c.toNat

/-- The characters with short escapes. -/
def shortened : List Char := ['\\', '"', '\n', '\r', '\t', '$']

theorem find?_eq_none_of_notMem {c : Char} (h : c ∉ shortened) : shortEscapes.find? c = none := by
  have hkeys : shortEscapes.map Prod.fst = shortened.map String.singleton := rfl
  refine List.lookup_eq_none_iff.mpr fun e he => ?_
  have hkey : e.1 ∈ shortened.map String.singleton := hkeys ▸ List.mem_map_of_mem he
  obtain ⟨d, hd, hkey⟩ := List.mem_map.mp hkey
  have hne : c ≠ d := fun hcd => h (hcd ▸ hd)
  rw [← hkey]
  simpa using hne

theorem reads_shortened : ∀ c ∈ shortened,
    Reads (escapeChar .units shortEscapes "\"" c) (encodeUtf8 (spelled c)) := by
  simp only [shortened, List.forall_mem_cons]
  exact ⟨.short rfl, .short rfl, .short rfl, .short rfl, .short rfl, .short rfl, List.forall_mem_nil _⟩

/-- A character of a literal is read as what it is spelled with. -/
theorem reads_escapeChar (c : Char) :
    Reads (escapeChar .units shortEscapes "\"" c) (encodeUtf8 (spelled c)) := by
  by_cases hshort : c ∈ shortened
  · exact reads_shortened c hshort
  · have hne {d : Char} (hd : d ∈ shortened) : c ≠ d := fun hcd => hshort (hcd ▸ hd)
    have hquote : String.singleton c ≠ "\"" := by
      intro hc
      have hd : c = '"' := by simpa using congrArg String.toList hc
      exact hne (by decide) hd
    rw [escapeChar, find?_eq_none_of_notMem hshort]
    simp only [if_neg hquote]
    split
    · next hplain =>
      rw [spelled, if_pos (.inl hplain)]
      exact .plain (hne (by decide)) (hne (by decide)) (hne (by decide))
    · next hplain =>
      have hno : ¬Understood c := by
        rintro (hyes | hmem)
        · exact hplain hyes
        · have hsub : ['\n', '\r', '\t'] ⊆ shortened := by decide
          exact hshort (hsub hmem)
      rw [spelled, if_neg hno]
      exact .code c.toNat

theorem readQuoted_escaped (cs rest : List Char) :
    readQuoted ('"' :: (cs.flatMap (escapeChar .units shortEscapes "\"") ++ '"' :: rest)) =
      .ok (encodeUtf8 (cs.flatMap spelled), rest) := by
  have hread : Reads (cs.flatMap (escapeChar .units shortEscapes "\""))
      (cs.flatMap fun c => encodeUtf8 (spelled c)) := Reads.flatMap fun c _ => reads_escapeChar c
  have hquote : readInside ('"' :: rest) = .ok ([], rest) := by
    rw [readInside]
    exact if_pos rfl
  rw [readQuoted, hread.2 ('"' :: rest) nofun, hquote, encodeUtf8, List.flatMap_assoc]
  exact congrArg (fun bs => Except.ok (bs, rest)) (List.append_nil _)

/-! ## What is read as it was -/

theorem length_le_encodeUtf8 (cs : List Char) : cs.length ≤ (encodeUtf8 cs).length := by
  induction cs with
  | nil => exact Nat.le_refl _
  | cons c cs ih =>
    have hc : 0 < (String.utf8EncodeChar c).length := by
      rw [String.length_utf8EncodeChar]
      exact c.utf8Size_pos
    rw [encodeUtf8, List.flatMap_cons, List.length_append, List.length_cons]
    exact Nat.add_comm cs.length 1 ▸ Nat.add_le_add hc ih

/-- An escape has more characters than a character has bytes. -/
theorem length_lt_escapeCode (c : Char) (n : Nat) :
    (encodeUtf8 [c]).length < (encodeUtf8 (escapeCode .units n)).length := by
  have hunit (k : Nat) : (unitEscape k).length = 6 := by
    rw [unitEscape, List.length_cons, List.length_cons, Text.length_hexFixed]
  have hlong : 6 ≤ (escapeCode .units n).length := by
    unfold escapeCode
    split
    · exact Nat.le_of_eq (hunit n).symm
    · rw [List.length_append, hunit]
      exact Nat.le_add_right 6 _
  have hshort : (encodeUtf8 [c]).length ≤ 4 := by
    rw [encodeUtf8, List.flatMap_singleton, String.length_utf8EncodeChar]
    exact c.utf8Size_le_four
  exact Nat.lt_of_lt_of_le (Nat.lt_of_le_of_lt hshort (by decide))
    (Nat.le_trans hlong (length_le_encodeUtf8 _))

theorem length_le_spelled (cs : List Char) :
    (encodeUtf8 cs).length ≤ (encodeUtf8 (cs.flatMap spelled)).length := by
  induction cs with
  | nil => exact Nat.le_refl _
  | cons c cs ih =>
    have hc : (encodeUtf8 [c]).length ≤ (encodeUtf8 (spelled c)).length := by
      unfold spelled
      split
      · exact Nat.le_refl _
      · exact Nat.le_of_lt (length_lt_escapeCode c c.toNat)
    rw [← List.singleton_append, Text.encodeUtf8_append, List.flatMap_append, Text.encodeUtf8_append,
      List.flatMap_singleton, List.length_append, List.length_append]
    exact Nat.add_le_add hc ih

/-- Nothing but an escape changes what is read, and an escape always does. -/
theorem encodeUtf8_spelled_iff {cs : List Char} :
    encodeUtf8 (cs.flatMap spelled) = encodeUtf8 cs ↔ ∀ c ∈ cs, Understood c := by
  induction cs with
  | nil => exact ⟨fun _ => List.forall_mem_nil _, fun _ => rfl⟩
  | cons c cs ih =>
    rw [List.flatMap_cons, Text.encodeUtf8_append, List.forall_mem_cons, ← List.singleton_append,
      Text.encodeUtf8_append, ← ih]
    by_cases hc : Understood c
    · rw [spelled, if_pos hc, List.append_cancel_left_eq, and_iff_right hc]
    · refine ⟨fun heq => ?_, fun hno => absurd hno.1 hc⟩
      rw [spelled, if_neg hc] at heq
      have hlength := congrArg List.length heq
      rw [List.length_append, List.length_append] at hlength
      have hfirst := length_lt_escapeCode c c.toNat
      have hrest := length_le_spelled cs
      omega

/-! ## Literals -/

theorem toList_literal (s : String) :
    (target.strategy.literal "\"" s).toList =
      '"' :: (s.toList.flatMap (escapeChar .units shortEscapes "\"") ++ ['"']) :=
  Escape.toList_escapeString .units shortEscapes "\"" s

/-- PHP reads a literal up to its closing quote and puts no variable into it, whatever the text. It reads a character
that is written as an escape of its code point as the characters of that escape, and so the text as it was exactly if
it has only printable ASCII characters, line feeds, carriage returns and tabs. -/
theorem readQuoted_literal (s : String) (rest : List Char) :
    readQuoted ((target.strategy.literal "\"" s).toList ++ rest) =
        .ok (encodeUtf8 (s.toList.flatMap spelled), rest) ∧
      (encodeUtf8 (s.toList.flatMap spelled) = encodeUtf8 s.toList ↔
        ∀ c ∈ s.toList, (' ' ≤ c ∧ c ≤ '~') ∨ c ∈ ['\n', '\r', '\t']) := by
  constructor
  · rw [toList_literal, List.cons_append, List.append_assoc]
    exact readQuoted_escaped s.toList rest
  · refine encodeUtf8_spelled_iff.trans (forall_congr' fun c => imp_congr_right fun _ => ?_)
    rw [Understood, isPlain, Bool.and_eq_true, decide_eq_true_eq, decide_eq_true_eq]

/-- An accented letter is read as a backslash, a `u` and four digits. -/
theorem readQuoted_literal_accented :
    readQuoted (target.strategy.literal "\"" "é").toList = .ok (encodeUtf8 "\\u00E9".toList, []) ∧
      encodeUtf8 "\\u00E9".toList ≠ encodeUtf8 "é".toList := by
  have hread := readQuoted_escaped ['é'] []
  have hspelled : ['é'].flatMap spelled = "\\u00E9".toList := by decide
  rw [hspelled] at hread
  exact ⟨(congrArg readQuoted (toList_literal "é")).trans hread, by decide⟩

end Emission.Target.Php
