import Emission.Escape.Literal
import Emission.Proofs.Escape.Reading
import Emission.Target.Php

/-!
# Quoted literals read back

A reader of the literals that `escapeString` writes, for any table of short escapes and any quote. Main
statement: `readLiteral?_escapeString`. If the table is `Readable`, the reader takes exactly the literal
from whatever text it stands in front of and gives the text that was written, so no text can end its
literal early.
-/

namespace Emission.Escape

/-! ## The reader -/

/-- A backslash and a character. -/
def backslashed (c : Char) : String := .ofList ['\\', c]

/-- The character whose short escape is a backslash and `c`. -/
def ShortEscapes.character? (table : ShortEscapes) (c : Char) : Option Char :=
  (List.find? (fun e => e.2 = backslashed c) table).bind fun e => e.1.toList.head?

/-- What the characters behind a backslash stand for, and what follows them. -/
def escape? (table : ShortEscapes) (quote : Char) : List Char → Option (Piece × List Char)
  | [] => none
  | c :: rest =>
    match table.character? c with
    | some d => some (.code d.toNat, rest)
    | none =>
      if c = quote then some (.code c.toNat, rest)
      else if c = 'u' then (hexField? 4 rest).map fun n => (.unit n, rest.drop 4)
      else if c = 'U' then (hexField? 8 rest).map fun n => (.code n, rest.drop 8)
      else none

theorem length_escape? {table : ShortEscapes} {quote : Char} {cs rest : List Char} {p : Piece}
    (h : escape? table quote cs = some (p, rest)) : rest.length ≤ cs.length := by
  cases cs with
  | nil => simp [escape?] at h
  | cons c more =>
    simp only [escape?] at h
    split at h
    · injection h with h
      injection h with _ hr
      simp [← hr]
    · split at h
      · injection h with h
        injection h with _ hr
        simp [← hr]
      · split at h
        · obtain ⟨n, _, hn⟩ := Option.map_eq_some_iff.mp h
          injection hn with _ hr
          simp only [← hr, List.length_drop, List.length_cons]
          omega
        · split at h
          · obtain ⟨n, _, hn⟩ := Option.map_eq_some_iff.mp h
            injection hn with _ hr
            simp only [← hr, List.length_drop, List.length_cons]
            omega
          · cases h

/-- The pieces up to the closing quote, and what follows it. -/
def pieces? (table : ShortEscapes) (quote : Char) : List Char → Option (List Piece × List Char)
  | [] => none
  | c :: rest =>
    if c = quote then some ([], rest)
    else if c = '\\' then
      match h : escape? table quote rest with
      | none => none
      | some (p, after) =>
        have := length_escape? h
        (pieces? table quote after).map fun (ps, more) => (p :: ps, more)
    else (pieces? table quote rest).map fun (ps, more) => (.code c.toNat :: ps, more)
termination_by cs => cs.length
decreasing_by all_goals simp only [List.length_cons]; omega

/-- The text of these code points, if each is a character. -/
def textOf? (codes : List Nat) : Option String :=
  (codes.mapM fun (n : Nat) => if n.isValidChar then some (Char.ofNat n) else none).map String.ofList

/-- A literal at the beginning of a text: what it says, and what follows it. -/
def readLiteral? (table : ShortEscapes) (quote : Char) : List Char → Option (String × List Char)
  | [] => none
  | c :: rest =>
    if c = quote then do
      let (ps, after) ← pieces? table quote rest
      let s ← textOf? (joinPieces ps)
      return (s, after)
    else none

/-- What makes literals readable: the backslash is escaped, short escapes are a backslash and a character
and can be told apart from each other, from code-point escapes and from the escaped quote. -/
structure ShortEscapes.Readable (table : ShortEscapes) (quote : Char) : Prop where
  backslash : ∃ e ∈ table, e.1 = "\\"
  shape : ∀ e ∈ table, ∃ k c : Char, e.1 = String.singleton k ∧ e.2 = backslashed c ∧
    c ≠ 'u' ∧ c ≠ 'U'
  injective : ∀ e ∈ table, ∀ f ∈ table, e.2 = f.2 → e.1 = f.1
  quote_ne : quote ≠ 'u' ∧ quote ≠ 'U' ∧ quote ≠ '\\' ∧ Text.isHexDigit quote = false
  quote_free : (∀ e ∈ table, e.1 ≠ String.singleton quote) →
    ∀ e ∈ table, e.2 ≠ backslashed quote

/-- The PHP target writes double-quoted literals that can be read. -/
theorem readable_shortEscapes_php : Target.Php.shortEscapes.Readable '"' where
  backslash := ⟨("\\", "\\\\"), by decide, rfl⟩
  shape := by
    intro e he
    simp only [Target.Php.shortEscapes, ShortEscapes.standard, List.cons_append, List.nil_append,
      List.mem_cons, List.not_mem_nil, or_false] at he
    rcases he with rfl | rfl | rfl | rfl | rfl | rfl
    · exact ⟨'\\', '\\', by decide⟩
    · exact ⟨'"', '"', by decide⟩
    · exact ⟨'\n', 'n', by decide⟩
    · exact ⟨'\r', 'r', by decide⟩
    · exact ⟨'\t', 't', by decide⟩
    · exact ⟨'$', '$', by decide⟩
  injective := by decide
  quote_ne := by decide
  quote_free := by
    intro h
    exact absurd rfl (h ("\"", "\\\"") (by decide))

/-! ## Looking short escapes up -/

theorem ShortEscapes.find?_eq_none {table : ShortEscapes} {c : Char} (h : table.find? c = none) :
    ∀ e ∈ table, e.1 ≠ String.singleton c := by
  intro e he hc
  have := List.lookup_eq_none_iff.mp h e he
  simp [hc] at this

theorem ShortEscapes.mem_of_find? {table : ShortEscapes} {c : Char} {s : String}
    (h : table.find? c = some s) : (String.singleton c, s) ∈ table := by
  obtain ⟨l₁, l₂, hl, _⟩ := List.lookup_eq_some_iff.mp h
  rw [hl]
  simp

theorem toList_backslashed (c : Char) : (backslashed c).toList = ['\\', c] := String.toList_ofList

theorem backslashed_inj {c d : Char} (h : backslashed c = backslashed d) : c = d := by
  have hl := congrArg String.toList h
  rw [toList_backslashed, toList_backslashed] at hl
  injection hl with _ hl
  injection hl

theorem ShortEscapes.character?_eq_none {table : ShortEscapes} {c : Char}
    (h : ∀ e ∈ table, e.2 ≠ backslashed c) : table.character? c = none := by
  have hfind : List.find? (fun e => decide (e.2 = backslashed c)) table = none := by
    rw [List.find?_eq_none]
    intro e he
    simpa using h e he
  rw [ShortEscapes.character?, hfind]
  rfl

/-- Short escapes that can be told apart lead back to their characters. -/
theorem ShortEscapes.character?_of_mem {table : ShortEscapes}
    (hinj : ∀ e ∈ table, ∀ f ∈ table, e.2 = f.2 → e.1 = f.1) {k c : Char}
    (h : (String.singleton k, backslashed c) ∈ table) : table.character? c = some k := by
  cases hfind : List.find? (fun e => decide (e.2 = backslashed c)) table with
  | none =>
    have hno := List.find?_eq_none.mp hfind _ h
    simp at hno
  | some e =>
    have he : e.2 = backslashed c := by simpa using List.find?_some hfind
    have hkey : e.1 = String.singleton k :=
      hinj e (List.mem_of_find?_eq_some hfind) (String.singleton k, backslashed c) h he
    rw [ShortEscapes.character?, hfind, Option.bind_some, hkey]
    simp

/-! ## One character -/

section

variable {table : ShortEscapes} {quote : Char}

/-- The pieces that a character of a literal is read as. -/
def charPieces (style : CodePointStyle) (table : ShortEscapes) (quote c : Char) : List Piece :=
  if (table.find? c).isSome || c = quote || isPlain c then [.code c.toNat]
  else codePieces style c.toNat

/-- Reading goes on behind a backslash and what belongs to it. -/
theorem pieces?_backslash (hq : quote ≠ '\\') {cs after : List Char} {p : Piece}
    (h : escape? table quote cs = some (p, after)) :
    pieces? table quote ('\\' :: cs) =
      (pieces? table quote after).map fun (ps, more) => (p :: ps, more) := by
  rw [pieces?, if_neg (Ne.symm hq), if_pos rfl]
  split
  · next hn => rw [h] at hn; cases hn
  · next p' after' hs =>
    rw [h] at hs
    injection hs with hs
    injection hs with hp ha
    subst hp ha
    rfl

theorem ShortEscapes.Readable.character?_unit (h : table.Readable quote) {c : Char}
    (hc : c = 'u' ∨ c = 'U') : table.character? c = none := by
  apply ShortEscapes.character?_eq_none
  intro e he heq
  obtain ⟨k, d, _, hd, hu, hU⟩ := h.shape e he
  have hcd : c = d := backslashed_inj (heq.symm.trans hd)
  rcases hc with rfl | rfl
  · exact hu hcd.symm
  · exact hU hcd.symm

theorem escape?_unit (h : table.Readable quote) {n : Nat} (hn : n ≤ maxBasic) (rest : List Char) :
    escape? table quote ('u' :: (Text.hexFixed .upper 4 n ++ rest)) = some (.unit n, rest) := by
  have hfit : n < Nat.pow 16 4 := by
    simp only [maxBasic] at hn
    show n < 65536
    omega
  rw [escape?, h.character?_unit (.inl rfl), if_neg (Ne.symm h.quote_ne.1), if_pos rfl,
    hexField?_hexFixed _ hfit, Option.map_some, drop_hexFixed]

theorem escape?_wide (h : table.Readable quote) {n : Nat} (hn : n ≤ maxCodePoint)
    (rest : List Char) :
    escape? table quote ('U' :: (Text.hexFixed .upper 8 n ++ rest)) = some (.code n, rest) := by
  have hfit : n < Nat.pow 16 8 := by
    simp only [maxCodePoint] at hn
    show n < 4294967296
    omega
  rw [escape?, h.character?_unit (.inr rfl), if_neg (Ne.symm h.quote_ne.2.1),
    if_neg (by decide), if_pos rfl, hexField?_hexFixed _ hfit, Option.map_some, drop_hexFixed]

/-- A unit escape is read as one unit. -/
theorem pieces?_unitEscape (h : table.Readable quote) {n : Nat} (hn : n ≤ maxBasic)
    (rest : List Char) :
    pieces? table quote (unitEscape n ++ rest) =
      (pieces? table quote rest).map fun (ps, more) => (.unit n :: ps, more) :=
  pieces?_backslash h.quote_ne.2.2.1 (escape?_unit h hn rest)

/-- The escape of a code point is read as its pieces. -/
theorem pieces?_escapeCode (h : table.Readable quote) (style : CodePointStyle) {n : Nat}
    (hn : n ≤ maxCodePoint) (rest : List Char) :
    pieces? table quote (escapeCode style n ++ rest) =
      (pieces? table quote rest).map fun (ps, more) => (codePieces style n ++ ps, more) := by
  unfold escapeCode codePieces
  by_cases hb : n ≤ maxBasic
  · rw [if_pos hb, if_pos hb]
    exact pieces?_unitEscape h hb rest
  · rw [if_neg hb, if_neg hb]
    cases style with
    | units =>
      simp only [maxBasic, maxCodePoint] at hb hn
      have hhigh : 0xD800 + (n - 0x10000) / 0x400 ≤ maxBasic := by
        simp only [maxBasic]
        omega
      have hlow : 0xDC00 + (n - 0x10000) % 0x400 ≤ maxBasic := by
        simp only [maxBasic]
        omega
      simp only [List.append_assoc]
      rw [pieces?_unitEscape h hhigh, pieces?_unitEscape h hlow, Option.map_map]
      rfl
    | wide => exact pieces?_backslash h.quote_ne.2.2.1 (escape?_wide h hn rest)

/-- A character of a literal is read as its pieces, whatever follows. -/
theorem pieces?_escapeChar (h : table.Readable quote) (style : CodePointStyle) (c : Char)
    (rest : List Char) :
    pieces? table quote (escapeChar style table (String.singleton quote) c ++ rest) =
      (pieces? table quote rest).map fun (ps, more) =>
        (charPieces style table quote c ++ ps, more) := by
  have hslash := h.quote_ne.2.2.1
  unfold escapeChar charPieces
  cases hfind : table.find? c with
  | some short =>
    -- a short escape: the table leads from what stands behind the backslash back to `c`
    have hmem := ShortEscapes.mem_of_find? hfind
    obtain ⟨k, d, _, hd, _⟩ := h.shape _ hmem
    simp only at hd
    subst hd
    have hesc : escape? table quote (d :: rest) = some (.code c.toNat, rest) := by
      rw [escape?, ShortEscapes.character?_of_mem h.injective hmem]
    simpa [toList_backslashed] using pieces?_backslash hslash hesc
  | none =>
    have hno := ShortEscapes.find?_eq_none hfind
    by_cases hq : c = quote
    · -- the quote: no short escape looks like it
      subst hq
      have hesc : escape? table c (c :: rest) = some (.code c.toNat, rest) := by
        rw [escape?, ShortEscapes.character?_eq_none (h.quote_free hno), if_pos rfl]
      simpa using pieces?_backslash hslash hesc
    · have hsq : String.singleton c ≠ String.singleton quote := by simpa using hq
      by_cases hp : isPlain c = true
      · -- a plain character: it is neither quote nor backslash
        have hc : c ≠ '\\' := by
          rintro rfl
          obtain ⟨e, he, hk⟩ := h.backslash
          exact hno e he hk
        simp [hsq, hp, pieces?, hq, hc]
      · simpa [hsq, hp, hq] using pieces?_escapeCode h style (toNat_le_maxCodePoint c) rest

/-! ## Whole texts -/

theorem joinPieces_charPieces_append (style : CodePointStyle) (c : Char) (rest : List Piece) :
    joinPieces (charPieces style table quote c ++ rest) = c.toNat :: joinPieces rest := by
  unfold charPieces
  split
  · rfl
  · exact joinPieces_codePieces_append style c rest

theorem joinPieces_flatMap_charPieces (style : CodePointStyle) (cs : List Char) :
    joinPieces (cs.flatMap (charPieces style table quote)) = cs.map Char.toNat := by
  induction cs with
  | nil => rfl
  | cons c rest ih => rw [List.flatMap_cons, joinPieces_charPieces_append, ih, List.map_cons]

/-- The inside of a literal is read up to the closing quote. -/
theorem pieces?_flatMap_escapeChar (h : table.Readable quote) (style : CodePointStyle)
    (cs rest : List Char) :
    pieces? table quote
        (cs.flatMap (escapeChar style table (String.singleton quote)) ++ quote :: rest) =
      some (cs.flatMap (charPieces style table quote), rest) := by
  induction cs with
  | nil => simp [pieces?]
  | cons c more ih =>
    rw [List.flatMap_cons, List.append_assoc, pieces?_escapeChar h, ih]
    rfl

theorem textOf?_map_toNat (cs : List Char) : textOf? (cs.map Char.toNat) = some (.ofList cs) := by
  have hm : (cs.map Char.toNat).mapM
      (fun (n : Nat) => if n.isValidChar then some (Char.ofNat n) else none) = some cs := by
    induction cs with
    | nil => rfl
    | cons c rest ih =>
      have hv : c.toNat.isValidChar := c.valid
      simp [ih, hv]
  rw [textOf?, hm]
  rfl

/-- A literal reads back as its text, from in front of any other text. -/
theorem readLiteral?_escapeString (style : CodePointStyle) (table : ShortEscapes) (quote : Char)
    (h : table.Readable quote) (s : String) (rest : List Char) :
    readLiteral? table quote
        ((escapeString style table (String.singleton quote) s).toList ++ rest) =
      some (s, rest) := by
  have hp := pieces?_flatMap_escapeChar h style s.toList rest
  simp only [toList_escapeString, String.toList_singleton, List.append_assoc, List.cons_append,
    List.nil_append] at hp ⊢
  rw [readLiteral?, if_pos rfl, hp]
  simp [joinPieces_flatMap_charPieces, textOf?_map_toNat]

theorem readLiteral?_escapeString_php :
    Target.Php.shortEscapes.Readable '"' ∧
      readLiteral? Target.Php.shortEscapes '"'
          ((escapeString .units Target.Php.shortEscapes (String.singleton '"')
            "\\\"$\né0😀😀").toList ++ "a\"".toList) =
        some ("\\\"$\né0😀😀", "a\"".toList) :=
  ⟨readable_shortEscapes_php, readLiteral?_escapeString .units _ '"' readable_shortEscapes_php _ _⟩

end

end Emission.Escape
