import Emission.Proofs.Escape.Reading
import Emission.Proofs.Fault
import Mathlib.Data.List.Chain

/-!
# Sequences of code-point escapes

Escapes written one after the other, and a reader of texts that are nothing but escapes. Main statement:
`readCodes?_escapes`. Wide escapes read back whatever they are; of escapes in units that holds exactly if no
high unit stands directly before a low one among the code points themselves (`joinPieces_flatMap_units_iff`).
-/

namespace Emission.Escape

/-! ## The reader -/

/-- A hexadecimal digit that is no lower-case letter. -/
def isUpperDigit (c : Char) : Bool := ('0' ≤ c && c ≤ '9') || ('A' ≤ c && c ≤ 'F')

/-- The number in the next `width` upper-case digits. -/
def upperField? (width : Nat) (cs : List Char) : Option Nat :=
  if (cs.take width).all isUpperDigit then hexField? width cs else none

/-- The escape that a text begins with, and what follows it: `\u` with four digits, or `\U` with eight where
code points beyond the basic plane are written so. -/
def leadingEscape? (style : CodePointStyle) : List Char → Option (Piece × List Char)
  | '\\' :: 'u' :: rest => (upperField? 4 rest).map fun n => (.unit n, rest.drop 4)
  | '\\' :: 'U' :: rest =>
    if style = .wide then (upperField? 8 rest).map fun n => (.code n, rest.drop 8) else none
  | _ => none

theorem length_leadingEscape? {style : CodePointStyle} {cs after : List Char} {p : Piece}
    (h : leadingEscape? style cs = some (p, after)) : after.length < cs.length := by
  revert h
  fun_cases leadingEscape? style cs with
  | case1 rest =>
    intro h
    obtain ⟨n, -, hn⟩ := Option.map_eq_some_iff.mp h
    obtain ⟨-, rfl⟩ := Prod.mk.inj hn
    simp only [List.length_drop, List.length_cons]
    omega
  | case2 rest =>
    intro h
    obtain ⟨n, -, hn⟩ := Option.map_eq_some_iff.mp h
    obtain ⟨-, rfl⟩ := Prod.mk.inj hn
    simp only [List.length_drop, List.length_cons]
    omega
  | case3 => nofun
  | case4 => nofun

/-- The pieces of a text that is made of escapes and nothing else. -/
def escapes? (style : CodePointStyle) (cs : List Char) : Option (List Piece) :=
  if cs = [] then some []
  else
    match h : leadingEscape? style cs with
    | none => none
    | some (p, after) =>
      have := length_leadingEscape? h
      (escapes? style after).map (p :: ·)
termination_by cs.length

def Piece.number : Piece → Nat
  | code n => n
  | unit n => n

/-- The code points that a text of escapes spells. Only where they are written in units, a high unit makes one
code point with the low unit behind it. -/
def readCodes? (style : CodePointStyle) (s : String) : Option (List Nat) :=
  (escapes? style s.toList).map fun ps =>
    match style with
    | .units => joinPieces ps
    | .wide => ps.map Piece.number

/-! ## One escape -/

theorem isUpperDigit_digit {d : Nat} (h : d < 16) : isUpperDigit (Text.HexCase.upper.digit d) = true := by
  have all : ∀ d : Fin 16, isUpperDigit (Text.HexCase.upper.digit d) = true := by decide
  exact all ⟨d, h⟩

theorem all_isUpperDigit_hexFixed (width n : Nat) :
    (Text.hexFixed .upper width n).all isUpperDigit = true := by
  induction width generalizing n with
  | zero => rfl
  | succ width ih =>
    rw [Text.hexFixed, List.all_append, ih, List.all_cons, isUpperDigit_digit (Nat.mod_lt n (by decide))]
    rfl

theorem upperField?_hexFixed {width n : Nat} (h : n < Nat.pow 16 width) (rest : List Char) :
    upperField? width (Text.hexFixed .upper width n ++ rest) = some n := by
  have htake : (Text.hexFixed .upper width n ++ rest).take width = Text.hexFixed .upper width n :=
    List.take_left' (Text.length_hexFixed .upper width n)
  rw [upperField?, htake, all_isUpperDigit_hexFixed, if_pos rfl, hexField?_hexFixed .upper h]

theorem escapes?_of_leading {style : CodePointStyle} {cs after : List Char} {p : Piece}
    (h : leadingEscape? style cs = some (p, after)) :
    escapes? style cs = (escapes? style after).map (p :: ·) := by
  have hne : cs ≠ [] := by
    rintro rfl
    cases h
  rw [escapes?, if_neg hne]
  split
  · next hn => rw [h] at hn; cases hn
  · next hs =>
    obtain ⟨rfl, rfl⟩ := Prod.mk.inj (Option.some.inj (h.symm.trans hs))
    rfl

theorem escapes?_unitEscape (style : CodePointStyle) {n : Nat} (h : n ≤ maxBasic) (rest : List Char) :
    escapes? style (unitEscape n ++ rest) = (escapes? style rest).map (.unit n :: ·) := by
  have hfit : n < Nat.pow 16 4 := Nat.lt_succ_of_le h
  apply escapes?_of_leading
  rw [unitEscape, List.cons_append, List.cons_append, leadingEscape?, upperField?_hexFixed hfit,
    Option.map_some, drop_hexFixed]

theorem escapes?_wide {n : Nat} (h : n ≤ maxCodePoint) (rest : List Char) :
    escapes? .wide ('\\' :: 'U' :: (Text.hexFixed .upper 8 n ++ rest)) =
      (escapes? .wide rest).map (.code n :: ·) := by
  have hfit : n < Nat.pow 16 8 := Nat.lt_of_le_of_lt h (by decide)
  apply escapes?_of_leading
  rw [leadingEscape?, if_pos rfl, upperField?_hexFixed hfit, Option.map_some, drop_hexFixed]

/-- The escape of a code point is read as its pieces, whatever follows. -/
theorem escapes?_escapeCode (style : CodePointStyle) {n : Nat} (h : n ≤ maxCodePoint) (rest : List Char) :
    escapes? style (escapeCode style n ++ rest) = (escapes? style rest).map (codePieces style n ++ ·) := by
  unfold escapeCode codePieces
  by_cases hbasic : n ≤ maxBasic
  · rw [if_pos hbasic, if_pos hbasic]
    exact escapes?_unitEscape style hbasic rest
  · rw [if_neg hbasic, if_neg hbasic]
    cases style with
    | units =>
      simp only [maxBasic, maxCodePoint] at hbasic h
      have hhigh : 0xD800 + (n - 0x10000) / 0x400 ≤ maxBasic := by
        simp only [maxBasic]
        omega
      have hlow : 0xDC00 + (n - 0x10000) % 0x400 ≤ maxBasic := by
        simp only [maxBasic]
        omega
      simp only [List.append_assoc]
      rw [escapes?_unitEscape _ hhigh, escapes?_unitEscape _ hlow, Option.map_map]
      rfl
    | wide => exact escapes?_wide h rest

theorem escapes?_flatMap_escapeCode (style : CodePointStyle) {ns : List Nat}
    (h : ∀ n ∈ ns, n ≤ maxCodePoint) :
    escapes? style (ns.flatMap (escapeCode style)) = some (ns.flatMap (codePieces style)) := by
  induction ns with
  | nil => rw [List.flatMap_nil, escapes?, if_pos rfl]; rfl
  | cons n ns ih =>
    have hrest := ih fun m hm => h m (List.mem_cons_of_mem n hm)
    rw [List.flatMap_cons, escapes?_escapeCode style (h n List.mem_cons_self), hrest]
    rfl

/-! ## Neighbours -/

/-- Wide pieces are code points, one each. -/
theorem map_number_flatMap_wide (ns : List Nat) :
    (ns.flatMap (codePieces .wide)).map Piece.number = ns := by
  have hone (n : Nat) : (codePieces .wide n).map Piece.number = [n] := by
    unfold codePieces
    split <;> rfl
  rw [List.map_flatMap]
  simp [hone]

/-- The first unit of a code point is a low one only if the code point is itself. -/
theorem exists_codePieces_units {n : Nat} (h : n ≤ maxCodePoint) :
    ∃ m more, codePieces .units n = .unit m :: more ∧ isLowUnit m = isLowUnit n := by
  unfold codePieces
  by_cases hbasic : n ≤ maxBasic
  · exact ⟨n, [], if_pos hbasic, rfl⟩
  · refine ⟨_, _, if_neg hbasic, ?_⟩
    simp only [maxBasic, maxCodePoint] at hbasic h
    rw [Bool.eq_iff_iff]
    simp only [isLowUnit, Bool.and_eq_true, decide_eq_true_eq]
    omega

/-- Two numbers are not the high and the low unit of a pair. -/
def Apart (m n : Nat) : Prop := ¬(isHighUnit m = true ∧ isLowUnit n = true)

instance : DecidableRel Apart := fun m n =>
  inferInstanceAs (Decidable ¬(isHighUnit m = true ∧ isLowUnit n = true))

/-- The pieces of a code point come back as that code point unless they are one high unit and a low unit
follows. -/
theorem joinPieces_units_append {n : Nat} (h : n ≤ maxCodePoint) {rest : List Piece}
    (hapart : ∀ m more, rest = .unit m :: more → Apart n m) :
    joinPieces (codePieces .units n ++ rest) = n :: joinPieces rest := by
  unfold codePieces
  by_cases hbasic : n ≤ maxBasic
  · rw [if_pos hbasic]
    match rest with
    | [] => rfl
    | .code _ :: _ => rfl
    | .unit m :: more =>
      have hno : (isHighUnit n && isLowUnit m) = false := by
        rw [← Bool.not_eq_true, Bool.and_eq_true]
        exact hapart m more rfl
      simp [joinPieces, hno]
  · rw [if_neg hbasic]
    exact joinPieces_pair (by omega) h rest

/-- A high and a low unit next to each other come back as a code point beyond the basic plane. -/
theorem joinPieces_units_of_not_apart {m n : Nat} (h : ¬Apart m n) (rest : List Piece) :
    ∃ joined, maxBasic < joined ∧
      joinPieces (codePieces .units m ++ (codePieces .units n ++ rest)) = joined :: joinPieces rest := by
  obtain ⟨hhigh, hlow⟩ := Classical.not_not.mp h
  have hm : m ≤ maxBasic := by
    simp only [isHighUnit, Bool.and_eq_true, decide_eq_true_eq] at hhigh
    simp only [maxBasic]
    omega
  have hn : n ≤ maxBasic := by
    simp only [isLowUnit, Bool.and_eq_true, decide_eq_true_eq] at hlow
    simp only [maxBasic]
    omega
  refine ⟨0x10000 + (m - 0xD800) * 0x400 + (n - 0xDC00), ?_, ?_⟩
  · simp only [maxBasic]
    omega
  · rw [codePieces, codePieces, if_pos hm, if_pos hn]
    simp [joinPieces, hhigh, hlow]

/-- Units come back as the code points they were written for exactly if no two neighbours among these look like
the units of another one. -/
theorem joinPieces_flatMap_units_iff {ns : List Nat} (h : ∀ n ∈ ns, n ≤ maxCodePoint) :
    joinPieces (ns.flatMap (codePieces .units)) = ns ↔ ns.IsChain Apart := by
  induction ns with
  | nil => simp [joinPieces]
  | cons m ns ih =>
    have hm := h m List.mem_cons_self
    have hrest := ih fun n hn => h n (List.mem_cons_of_mem m hn)
    rw [List.flatMap_cons]
    cases ns with
    | nil =>
      rw [joinPieces_units_append hm (by simp)]
      simp [joinPieces]
    | cons n more =>
      rw [List.isChain_cons_cons]
      by_cases hapart : Apart m n
      · -- the next number begins with a unit that is low exactly if the number is
        obtain ⟨first, others, hfirst, hlow⟩ :=
          exists_codePieces_units (h n (List.mem_cons_of_mem m List.mem_cons_self))
        have hnext : ∀ k ks, (n :: more).flatMap (codePieces .units) = .unit k :: ks → Apart m k := by
          intro k ks hk
          rw [List.flatMap_cons, hfirst, List.cons_append] at hk
          obtain rfl := Piece.unit.inj (List.cons.inj hk).1
          rwa [Apart, hlow]
        rw [joinPieces_units_append hm hnext, List.cons.injEq, hrest]
        simp [hapart]
      · -- the two are taken for one code point, which is not the first of them
        obtain ⟨joined, hjoined, hpair⟩ :=
          joinPieces_units_of_not_apart hapart (more.flatMap (codePieces .units))
        rw [List.flatMap_cons, hpair]
        have hne : joined ≠ m := by
          have hhigh := (Classical.not_not.mp hapart).1
          simp only [isHighUnit, Bool.and_eq_true, decide_eq_true_eq] at hhigh
          simp only [maxBasic] at hjoined
          omega
        simp [hapart, hne]

/-! ## Whole texts -/

/-- The escapes of numbers exist as soon as the numbers are code points, and together they are the escapes of
these. -/
theorem exists_mapM_escapeCodePoint (style : CodePointStyle) {ns : List Int}
    (h : ∀ n ∈ ns, 0 ≤ n ∧ n ≤ maxCodePoint) :
    ∃ texts, ns.mapM (escapeCodePoint style) = .ok texts ∧
      (String.join texts).toList = (ns.map Int.toNat).flatMap (escapeCode style) := by
  induction ns with
  | nil => exact ⟨[], rfl, rfl⟩
  | cons n ns ih =>
    obtain ⟨texts, htexts, hjoin⟩ := ih fun m hm => h m (List.mem_cons_of_mem n hm)
    obtain ⟨hlow, hhigh⟩ := h n List.mem_cons_self
    have hn : escapeCodePoint style n = .ok (.ofList (escapeCode style n.toNat)) := by
      rw [escapeCodePoint, if_neg (by omega)]
    refine ⟨_, by rw [List.mapM_cons, hn, ok_bind, htexts]; rfl, ?_⟩
    simp [String.join_cons, hjoin]

/-- A number has an escape exactly if it is a code point. Escapes of code points written one after the other read
back as these if they are wide, and if they are in units exactly if no high unit comes directly before a low
one. -/
theorem readCodes?_escapes :
    (∀ style (n : Int), escapeCodePoint style n =
      if 0 ≤ n ∧ n ≤ 0x10FFFF then .ok (.ofList (escapeCode style n.toNat))
      else .error (.codePointOutOfRange n)) ∧
    ∀ ns : List Int, (∀ n ∈ ns, 0 ≤ n ∧ n ≤ 0x10FFFF) →
      (∃ texts, ns.mapM (escapeCodePoint .wide) = .ok texts ∧
        readCodes? .wide (String.join texts) = some (ns.map Int.toNat)) ∧
      ∃ texts, ns.mapM (escapeCodePoint .units) = .ok texts ∧
        (readCodes? .units (String.join texts) = some (ns.map Int.toNat) ↔
          (ns.map Int.toNat).IsChain Apart) := by
  constructor
  · intro style n
    unfold escapeCodePoint
    by_cases hn : 0 ≤ n ∧ n ≤ 0x10FFFF
    · rw [if_pos hn, if_neg (by simp only [maxCodePoint]; omega)]
    · rw [if_neg hn, if_pos (by simp only [maxCodePoint]; omega)]
  · intro ns hns
    have hcodes : ∀ n ∈ ns.map Int.toNat, n ≤ maxCodePoint := by
      intro n hn
      obtain ⟨m, hm, rfl⟩ := List.mem_map.mp hn
      have := hns m hm
      simp only [maxCodePoint]
      omega
    constructor
    · obtain ⟨texts, htexts, hjoin⟩ := exists_mapM_escapeCodePoint .wide hns
      refine ⟨texts, htexts, ?_⟩
      rw [readCodes?, hjoin, escapes?_flatMap_escapeCode .wide hcodes, Option.map_some]
      exact congrArg some (map_number_flatMap_wide _)
    · obtain ⟨texts, htexts, hjoin⟩ := exists_mapM_escapeCodePoint .units hns
      refine ⟨texts, htexts, ?_⟩
      rw [readCodes?, hjoin, escapes?_flatMap_escapeCode .units hcodes, Option.map_some,
        Option.some_inj]
      exact joinPieces_flatMap_units_iff hcodes

/-- A low unit and a high one with a code point of both between them: all come back. A high unit and a low one do
not, unless they are written wide. -/
theorem readCodes?_escapes_halves :
    (∃ texts, [0xDE00, 0x1F600, 0xD83D, 0x41].mapM (escapeCodePoint .units) = .ok texts ∧
      readCodes? .units (String.join texts) = some [0xDE00, 0x1F600, 0xD83D, 0x41]) ∧
    (∃ texts, [0xD83D, 0xDE00].mapM (escapeCodePoint .units) = .ok texts ∧
      readCodes? .units (String.join texts) ≠ some [0xD83D, 0xDE00]) ∧
    (∃ texts, [0xD83D, 0xDE00].mapM (escapeCodePoint .wide) = .ok texts ∧
      readCodes? .wide (String.join texts) = some [0xD83D, 0xDE00]) ∧
    escapeCodePoint .units 0x110000 = .error (.codePointOutOfRange 0x110000) := by
  obtain ⟨hescape, hread⟩ := readCodes?_escapes
  obtain ⟨-, texts, htexts, hiff⟩ := hread [0xDE00, 0x1F600, 0xD83D, 0x41] (by decide)
  obtain ⟨⟨wide, hwide, hsame⟩, halves, hhalves, hsplit⟩ := hread [0xD83D, 0xDE00] (by decide)
  exact ⟨⟨texts, htexts, hiff.mpr (by decide)⟩, ⟨halves, hhalves, fun h => absurd (hsplit.mp h) (by decide)⟩,
    ⟨wide, hwide, hsame⟩, hescape .units 0x110000⟩

end Emission.Escape
