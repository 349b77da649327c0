import Emission.Text.Blank
import Emission.Text.Search
import Mathlib.Tactic.SplitIfs

/-!
# Reading merged arrays

What a reader of generated code makes of `\array_merge([1, 2], [3])`: it finds the call, takes what stands
between its parentheses, cuts that into lexemes and reads lists of integers between brackets. White space
may stand between lexemes only, integers have no leading zeros, and no comma may be missing or too many.
Main statement: `lexemes?_toString`, an integer that is printed is read back.
-/

namespace Emission.Segment

/-! ## Finding the call -/

/-- What follows the first occurrence of a text. -/
def behind? (part : List Char) : List Char → Option (List Char)
  | [] => Text.dropPrefix? part []
  | c :: rest =>
    match Text.dropPrefix? part (c :: rest) with
    | some after => some after
    | none => behind? part rest

/-- What stands before the parenthesis that closes one more than are opened here. -/
def insideParens? : Nat → List Char → Option (List Char)
  | _, [] => none
  | depth, c :: rest =>
    if c = '(' then (insideParens? (depth + 1) rest).map (c :: ·)
    else if c = ')' then
      match depth with
      | 0 => some []
      | depth + 1 => (insideParens? depth rest).map (c :: ·)
    else (insideParens? depth rest).map (c :: ·)

/-! ## Lexemes -/

inductive Lexeme
  | opening | closing | comma
  | int (n : Int)
  deriving DecidableEq, Repr

def Lexeme.ofChar? (c : Char) : Option Lexeme :=
  if c = '[' then some .opening
  else if c = ']' then some .closing
  else if c = ',' then some .comma
  else none

/-- How much of an integer is read. -/
inductive Pending
  | nothing
  | minus
  | digits (negative : Bool) (n : Nat)
  deriving DecidableEq, Repr

namespace Pending

/-- The integer after one more digit; none follows a zero. -/
def digit (c : Char) : Pending → Option Pending
  | nothing => some (digits false (c.toNat - '0'.toNat))
  | minus => some (digits true (c.toNat - '0'.toNat))
  | digits negative n =>
    if n = 0 then none else some (digits negative (10 * n + (c.toNat - '0'.toNat)))

/-- The integer as a lexeme in front of others, if it is complete. -/
def finish (more : List Lexeme) : Pending → Option (List Lexeme)
  | nothing => some more
  | minus => none
  | digits negative n => some (.int (if negative then -n else n) :: more)

end Pending

/-- The lexemes of a text behind a part of an integer. -/
def lexemes? (p : Pending) : List Char → Option (List Lexeme)
  | [] => p.finish []
  | c :: rest =>
    if c.isDigit then (p.digit c).bind (lexemes? · rest)
    else if c = '-' then (lexemes? .minus rest).bind p.finish
    else
      match Lexeme.ofChar? c with
      | some x => (lexemes? .nothing rest).bind fun more => p.finish (x :: more)
      | none => if Text.isBlank c then (lexemes? .nothing rest).bind p.finish else none

/-! ## Arrays -/

mutual

/-- The items of an array right behind its opening bracket, and the arrays that follow it. -/
def firstItem? : List Lexeme → Option (List Int × List (List Int))
  | .closing :: rest => (afterArray? rest).map ([], ·)
  | .int n :: rest => (nextItem? rest).map fun found => (n :: found.1, found.2)
  | _ => none

/-- The items of an array behind an item. -/
def nextItem? : List Lexeme → Option (List Int × List (List Int))
  | .closing :: rest => (afterArray? rest).map ([], ·)
  | .comma :: .int n :: rest => (nextItem? rest).map fun found => (n :: found.1, found.2)
  | _ => none

/-- The arrays behind an array. -/
def afterArray? : List Lexeme → Option (List (List Int))
  | [] => some []
  | .comma :: .opening :: rest => (firstItem? rest).map fun found => found.1 :: found.2
  | _ => none

end

/-- The arrays that lexemes spell, one behind the other with commas between them. -/
def arrays? : List Lexeme → Option (List (List Int))
  | [] => some []
  | .opening :: rest => (firstItem? rest).map fun found => found.1 :: found.2
  | _ => none

/-- The arrays that a text merges. -/
def mergedArrays? (s : String) : Option (List (List Int)) := do
  let after ← behind? "\\array_merge(".toList s.toList
  let inside ← insideParens? 0 after
  arrays? (← lexemes? .nothing inside)

/-! ## Printed integers -/

theorem isDigit_digitChar {d : Nat} (h : d < 10) : d.digitChar.isDigit = true := by
  revert d
  decide

/-- The digits of a natural number are read up to that number. -/
theorem lexemes?_toDigits (p : Pending) (negative : Bool)
    (hp : ∀ c, p.digit c = some (.digits negative (c.toNat - '0'.toNat))) (n : Nat)
    (rest : List Char) :
    lexemes? p (Nat.toDigits 10 n ++ rest) = lexemes? (.digits negative n) rest := by
  induction n using Nat.strongRecOn generalizing rest with
  | _ n ih =>
    by_cases h : n < 10
    · have hd : n.digitChar.toNat - '0'.toNat = n := Nat.toNat_digitChar_sub_48_of_lt_ten h
      rw [Nat.toDigits_of_lt_base h, List.singleton_append, lexemes?, if_pos (isDigit_digitChar h), hp,
        hd, Option.bind_some]
    · -- all but the last digit are read first, and they do not amount to zero
      have hlast : n % 10 < 10 := Nat.mod_lt n (by decide)
      have hd : (n % 10).digitChar.toNat - '0'.toNat = n % 10 :=
        Nat.toNat_digitChar_sub_48_of_lt_ten hlast
      have hpos : n / 10 ≠ 0 := by omega
      have hsum : 10 * (n / 10) + n % 10 = n := Nat.div_add_mod n 10
      rw [Nat.toDigits_of_base_le (by decide) (by omega), List.append_assoc, ih (n / 10) (by omega),
        List.singleton_append, lexemes?, if_pos (isDigit_digitChar hlast), Pending.digit, if_neg hpos,
        hd, hsum, Option.bind_some]

/-- A mark ends an integer and is a lexeme of its own. -/
theorem lexemes?_mark (p : Pending) {c : Char} {x : Lexeme} (hc : Lexeme.ofChar? c = some x)
    (rest : List Char) :
    lexemes? p (c :: rest) = (lexemes? .nothing rest).bind fun more => p.finish (x :: more) := by
  have hdigit : c.isDigit = false ∧ c ≠ '-' := by
    unfold Lexeme.ofChar? at hc
    split at hc
    · subst c; decide
    · split at hc
      · subst c; decide
      · split at hc
        · subst c; decide
        · cases hc
  rw [lexemes?, hdigit.1, if_neg Bool.false_ne_true, if_neg hdigit.2, hc]

/-- White space between lexemes is passed over. -/
theorem lexemes?_blank {c : Char} (hc : Text.isBlank c = true) (rest : List Char) :
    lexemes? .nothing (c :: rest) = lexemes? .nothing rest := by
  have hdigit : c.isDigit = false := by
    simp only [Text.isBlank, Bool.or_eq_true, Bool.and_eq_true, beq_iff_eq, decide_eq_true_eq] at hc
    simp only [Char.isDigit, Bool.and_eq_false_iff, decide_eq_false_iff_not, ge_iff_le,
      UInt32.le_iff_toNat_le]
    show ¬ 48 ≤ c.toNat ∨ ¬ c.toNat ≤ 57
    omega
  have hminus : c ≠ '-' := by
    rintro rfl
    revert hc
    decide
  have hmark : Lexeme.ofChar? c = none := by
    unfold Lexeme.ofChar?
    split_ifs <;> first | rfl | (subst c; revert hc; decide)
  rw [lexemes?, hdigit, if_neg Bool.false_ne_true, if_neg hminus, hmark]
  show (if Text.isBlank c then (lexemes? .nothing rest).bind some else none) = _
  rw [if_pos hc, Option.bind_fun_some]

theorem lexemes?_blanks {cs : List Char} (hcs : ∀ c ∈ cs, Text.isBlank c = true)
    (rest : List Char) : lexemes? .nothing (cs ++ rest) = lexemes? .nothing rest := by
  induction cs with
  | nil => rfl
  | cons c more ih =>
    rw [List.cons_append, lexemes?_blank (hcs c List.mem_cons_self),
      ih fun d hd => hcs d (List.mem_cons_of_mem c hd)]

/-- A printed integer in front of a mark is one lexeme. -/
theorem lexemes?_toString (n : Int) {c : Char} {x : Lexeme} (hc : Lexeme.ofChar? c = some x)
    (rest : List Char) :
    lexemes? .nothing ((toString n).toList ++ c :: rest) =
      (lexemes? .nothing rest).map fun more => .int n :: x :: more := by
  rw [Int.toString_eq_repr, Int.repr_eq_if]
  by_cases h : 0 ≤ n
  · have hn : (n.toNat : Int) = n := Int.toNat_of_nonneg h
    rw [if_pos h, Nat.toList_repr, lexemes?_toDigits .nothing false (fun _ => rfl),
      lexemes?_mark _ hc]
    show (lexemes? .nothing rest).bind (fun more => some (.int n.toNat :: x :: more)) = _
    rw [hn, Option.map_eq_bind]
    rfl
  · have hn : -((-n).toNat : Int) = n := by omega
    rw [if_neg h, String.toList_append, Nat.toList_repr]
    show (lexemes? .minus (Nat.toDigits 10 (-n).toNat ++ c :: rest)).bind some = _
    rw [Option.bind_fun_some, lexemes?_toDigits .minus true (fun _ => rfl),
      lexemes?_mark _ hc]
    show (lexemes? .nothing rest).bind (fun more => some (.int (-(-n).toNat) :: x :: more)) = _
    rw [hn, Option.map_eq_bind]
    rfl

/-! ## Printed arrays -/

/-- The lexemes of the items of an array. -/
def itemLexemes : List Int → List Lexeme
  | [] => []
  | n :: rest => .int n :: rest.flatMap fun m => [.comma, .int m]

/-- Items with commas between them, in front of the closing bracket. -/
theorem lexemes?_items (items : List Int) (rest : List Char) :
    lexemes? .nothing ((", ".intercalate (items.map toString)).toList ++ ']' :: rest) =
      (lexemes? .nothing rest).map (itemLexemes items ++ .closing :: ·) := by
  induction items with
  | nil =>
    show lexemes? .nothing (']' :: rest) = _
    rw [lexemes?_mark .nothing (x := .closing) rfl, Option.map_eq_bind]
    rfl
  | cons n items ih =>
    cases items with
    | nil =>
      rw [List.map_singleton, String.intercalate_singleton,
        lexemes?_toString n (x := .closing) rfl]
      rfl
    | cons m more =>
      rw [List.map_cons, List.map_cons, String.intercalate_cons_cons, ← List.map_cons,
        String.toList_append, String.toList_append, List.append_assoc, List.append_assoc]
      show lexemes? .nothing ((toString n).toList ++ ',' :: ' ' ::
        ((", ".intercalate ((m :: more).map toString)).toList ++ ']' :: rest)) = _
      rw [lexemes?_toString n (x := .comma) rfl, lexemes?_blank rfl, ih, Option.map_map]
      rfl

theorem nextItem?_items (items : List Int) (rest : List Lexeme) :
    nextItem? (items.flatMap (fun m => [.comma, .int m]) ++ .closing :: rest) =
      (afterArray? rest).map (items, ·) := by
  induction items with
  | nil => rfl
  | cons n more ih =>
    show (nextItem? (more.flatMap (fun m => [.comma, .int m]) ++ .closing :: rest)).map _ = _
    rw [ih, Option.map_map]
    rfl

theorem firstItem?_items (items : List Int) (rest : List Lexeme) :
    firstItem? (itemLexemes items ++ .closing :: rest) = (afterArray? rest).map (items, ·) := by
  cases items with
  | nil => rfl
  | cons n more =>
    show (nextItem? (more.flatMap (fun m => [.comma, .int m]) ++ .closing :: rest)).map _ = _
    rw [nextItem?_items, Option.map_map]
    rfl

/-- The lexemes of arrays with commas between them. -/
def arrayLexemes : List (List Int) → List Lexeme
  | [] => []
  | [items] => .opening :: (itemLexemes items ++ [.closing])
  | items :: rest => .opening :: (itemLexemes items ++ .closing :: .comma :: arrayLexemes rest)

theorem arrays?_arrayLexemes (arrays : List (List Int)) :
    arrays? (arrayLexemes arrays) = some arrays := by
  induction arrays with
  | nil => rfl
  | cons items rest ih =>
    cases rest with
    | nil =>
      show (firstItem? (itemLexemes items ++ [.closing])).map _ = _
      rw [firstItem?_items]
      rfl
    | cons next more =>
      have hafter : afterArray? (.comma :: arrayLexemes (next :: more)) = some (next :: more) := by
        rw [← ih]
        cases more <;> rfl
      show (firstItem? (itemLexemes items ++ .closing :: .comma :: _)).map _ = _
      rw [firstItem?_items, hafter]
      rfl

/-! ## Parentheses -/

/-- A text that consists of lexemes has no parentheses. -/
theorem parens_notMem_of_lexemes? {p : Pending} {cs : List Char} {found : List Lexeme}
    (h : lexemes? p cs = some found) : ∀ c ∈ cs, c ≠ '(' ∧ c ≠ ')' := by
  induction cs generalizing p found with
  | nil => intro c hc; cases hc
  | cons d rest ih =>
    have hrest : ∃ p' found', lexemes? p' rest = some found' := by
      rw [lexemes?] at h
      split at h
      · obtain ⟨p', -, hp'⟩ := Option.bind_eq_some_iff.mp h
        exact ⟨p', found, hp'⟩
      · split at h
        · obtain ⟨more, hmore, -⟩ := Option.bind_eq_some_iff.mp h
          exact ⟨_, more, hmore⟩
        · split at h
          · obtain ⟨more, hmore, -⟩ := Option.bind_eq_some_iff.mp h
            exact ⟨_, more, hmore⟩
          · split at h
            · obtain ⟨more, hmore, -⟩ := Option.bind_eq_some_iff.mp h
              exact ⟨_, more, hmore⟩
            · cases h
    have hd : d ≠ '(' ∧ d ≠ ')' := by
      constructor <;> rintro rfl <;> cases h
    obtain ⟨p', found', hfound⟩ := hrest
    intro c hc
    rcases List.mem_cons.mp hc with rfl | hc
    · exact hd
    · exact ih hfound c hc

theorem insideParens?_of_notMem {cs : List Char} (hcs : ∀ c ∈ cs, c ≠ '(' ∧ c ≠ ')')
    (rest : List Char) : insideParens? 0 (cs ++ ')' :: rest) = some cs := by
  induction cs with
  | nil => rfl
  | cons c more ih =>
    obtain ⟨hopen, hclose⟩ := hcs c List.mem_cons_self
    rw [List.cons_append, insideParens?, if_neg hopen, if_neg hclose,
      ih fun d hd => hcs d (List.mem_cons_of_mem c hd)]
    rfl

end Emission.Segment
