import Emission.Text.Case

/-!
# Lower case

Lower case as the form in which texts are compared. It is settled: every character that the tables map to is
mapped to itself, and none of them is a capital sigma, the one letter whose mapping depends on its neighbours.
It does not see the case of ASCII letters, since a letter and its capital have case alike and are passed over
alike. Main statements: `lower_lower` and `lower_eq_of_alike`.
-/

namespace Emission.Text

/-! ## What the tables map to -/

/-- A run maps a code point. -/
def CaseRun.Maps (r : CaseRun) (n : Nat) : Prop :=
  r.1 ≤ n ∧ n ≤ r.2.1 ∧ (n - r.1) % r.2.2.1 = 0

/-- The smallest code point that a run maps to. -/
def CaseRun.low (r : CaseRun) : Nat := (r.1 + r.2.2.2).toNat

/-- The largest code point that a run maps to. -/
def CaseRun.high (r : CaseRun) : Nat := (r.2.1 + r.2.2.2).toNat

/-- What a run maps to is all even or all odd. -/
def CaseRun.alternates (r : CaseRun) : Bool := r.2.2.1 == 2 || r.1 == r.2.1

/-- A run maps nothing that another one maps to: it lies below or above, or it maps only the odd ones between
even ones or the even ones between odd ones. -/
def CaseRun.spares (q r : CaseRun) : Bool :=
  q.2.1.blt r.low || r.high.blt q.1 ||
    (r.alternates && q.2.2.1 == 2 && (r.low + q.1) % 2 == 1)

/-- A run maps to nothing between two code points. -/
def CaseRun.avoids (r : CaseRun) (first last : Nat) : Bool := r.high.blt first || last.blt r.low

theorem lowerRuns_spare : (lowerRuns.all fun r => lowerRuns.all fun q => q.spares r) = true := by
  decide +kernel

/-- No run maps to an ASCII capital, to the letter with the long mapping or to a capital sigma. -/
theorem lowerRuns_avoid :
    (lowerRuns.all fun r => r.avoids 65 90 && r.avoids 304 304 && r.avoids 931 931) = true := by
  decide +kernel

/-- Every run maps to characters, and its steps are of one or two. -/
theorem lowerRuns_valid :
    ∀ r ∈ lowerRuns, 0 ≤ r.1 + r.2.2.2 ∧ (r.2.2.1 = 1 ∨ r.2.2.1 = 2) ∧
      (r.high < 0xD800 ∨ 0xDFFF < r.low ∧ r.high < 0x110000) := by
  decide +kernel

theorem exists_run_of_caseShift? {runs : List CaseRun} {n : Nat} {shift : Int}
    (h : caseShift? runs n = some shift) : ∃ r ∈ runs, r.Maps n ∧ r.2.2.2 = shift := by
  induction runs with
  | nil => cases h
  | cons r rest ih =>
    rw [caseShift?] at h
    split at h
    · next hmaps => exact ⟨r, List.mem_cons_self, hmaps, Option.some.inj h⟩
    · obtain ⟨q, hq, hmaps⟩ := ih h
      exact ⟨q, List.mem_cons_of_mem r hq, hmaps⟩

theorem caseShift?_eq_none {runs : List CaseRun} {n : Nat} (h : ∀ r ∈ runs, ¬ r.Maps n) :
    caseShift? runs n = none := by
  induction runs with
  | nil => rfl
  | cons r rest ih =>
    have hrest : caseShift? rest n = none := ih fun q hq => h q (List.mem_cons_of_mem r hq)
    rw [caseShift?, hrest]
    exact if_neg (h r List.mem_cons_self)

section Images

variable {r q : CaseRun} {n m : Nat}

/-- What a run maps to lies between its lowest and highest image, and has one parity if these alternate. -/
theorem CaseRun.image_bounds (hr : r ∈ lowerRuns) (hn : r.Maps n) (hm : (m : Int) = n + r.2.2.2) :
    r.low ≤ m ∧ m ≤ r.high ∧ (r.alternates = true → m % 2 = r.low % 2) := by
  obtain ⟨first, last, step, shift⟩ := r
  obtain ⟨hfirst, hlast, hstep⟩ := hn
  obtain ⟨hshift, -, -⟩ := lowerRuns_valid _ hr
  simp only [CaseRun.low, CaseRun.high, CaseRun.alternates, Bool.or_eq_true, beq_iff_eq] at *
  refine ⟨by omega, by omega, ?_⟩
  rintro (rfl | rfl)
  · omega
  · omega

/-- What a run maps to is mapped by no run. -/
theorem CaseRun.not_maps_image (hr : r ∈ lowerRuns) (hq : q ∈ lowerRuns) (hn : r.Maps n)
    (hm : (m : Int) = n + r.2.2.2) : ¬ q.Maps m := by
  obtain ⟨hlow, hhigh, hparity⟩ := r.image_bounds hr hn hm
  have hspares : q.spares r = true := List.all_eq_true.mp (List.all_eq_true.mp lowerRuns_spare r hr) q hq
  rintro ⟨hfirst, hlast, hstep⟩
  simp only [CaseRun.spares, Bool.or_eq_true, Bool.and_eq_true, beq_iff_eq, Nat.blt_eq] at hspares
  rcases hspares with (hbelow | habove) | ⟨⟨halternates, htwo⟩, hodd⟩
  · omega
  · omega
  · -- the image has one parity, and what the other run maps has the other
    have := hparity halternates
    rw [htwo] at hstep
    omega

theorem CaseRun.image_outside {first last : Nat} (havoids : r.avoids first last = true) (hr : r ∈ lowerRuns)
    (hn : r.Maps n) (hm : (m : Int) = n + r.2.2.2) : m < first ∨ last < m := by
  obtain ⟨hlow, hhigh, -⟩ := r.image_bounds hr hn hm
  simp only [CaseRun.avoids, Bool.or_eq_true, Nat.blt_eq] at havoids
  omega

end Images

/-! ## Characters in lower case -/

/-- A character that lower case leaves alone, wherever it stands. -/
def Settled (c : Char) : Prop := c ≠ 'Σ' ∧ lowerChar c = [c]

instance (c : Char) : Decidable (Settled c) := inferInstanceAs (Decidable (_ ∧ _))

theorem settled_toLower_ascii : ∀ n < 128, Settled (Char.ofNat n).toLower := by
  decide +kernel

theorem settled_ascii : ∀ n < 128, ¬ (65 ≤ n ∧ n ≤ 90) → Settled (Char.ofNat n) := by
  decide +kernel

theorem settled_lowerSpecials : ∀ e ∈ lowerSpecials, ∀ n ∈ e.2, Settled (Char.ofNat n) := by
  decide +kernel

theorem toNat_ofNat {n : Nat} (h : n < 0xD800 ∨ 0xDFFF < n ∧ n < 0x110000) : (Char.ofNat n).toNat = n := by
  rw [Char.ofNat, dif_pos h]
  rfl

/-- A character beyond ASCII that the tables pass over is settled. -/
theorem settled_of_caseShift?_eq_none {c : Char} (hsigma : c.toNat ≠ 931) (hlong : c.toNat ≠ 304)
    (hascii : ¬ c.toNat < 128) (h : caseShift? lowerRuns c.toNat = none) : Settled c := by
  have hlookup : lowerSpecials.lookup c.toNat = none := by
    simp [lowerSpecials, List.lookup_cons, beq_eq_false_iff_ne.mpr hlong]
  refine ⟨?_, ?_⟩
  · rintro rfl
    exact hsigma rfl
  · rw [lowerChar, if_neg hascii, mapCase]
    simp only [hlookup, h]

/-- Whatever a run maps to is settled. -/
theorem settled_of_maps {r : CaseRun} {n : Nat} (hr : r ∈ lowerRuns) (hn : r.Maps n) :
    Settled (Char.ofNat ((n : Int) + r.2.2.2).toNat) := by
  obtain ⟨hshift, -, hvalid⟩ := lowerRuns_valid r hr
  have havoids := List.all_eq_true.mp lowerRuns_avoid r hr
  rw [Bool.and_eq_true, Bool.and_eq_true] at havoids
  obtain ⟨⟨hcapital, hlong⟩, hsigma⟩ := havoids
  have hm : ((((n : Int) + r.2.2.2).toNat : Nat) : Int) = n + r.2.2.2 := by
    have := hn.1
    omega
  generalize ((n : Int) + r.2.2.2).toNat = m at hm ⊢
  have hcapital := r.image_outside hcapital hr hn hm
  have hlong := r.image_outside hlong hr hn hm
  have hsigma := r.image_outside hsigma hr hn hm
  -- the table is not asked below 128, where all but the capitals are settled
  by_cases hascii : m < 128
  · exact settled_ascii m hascii (by omega)
  · have htoNat : (Char.ofNat m).toNat = m := by
      obtain ⟨hlow, hhigh, -⟩ := r.image_bounds hr hn hm
      exact toNat_ofNat (by omega)
    apply settled_of_caseShift?_eq_none
    · rw [htoNat]
      omega
    · rw [htoNat]
      omega
    · rw [htoNat]
      exact hascii
    · rw [htoNat]
      exact caseShift?_eq_none fun q hq => r.not_maps_image hr hq hn hm

theorem settled_lowerChar {c : Char} (hsigma : c ≠ 'Σ') : ∀ d ∈ lowerChar c, Settled d := by
  rw [lowerChar]
  split
  · next hascii =>
    intro d hd
    rw [List.mem_singleton.mp hd, ← Char.ofNat_toNat c]
    exact settled_toLower_ascii c.toNat hascii
  · next hascii =>
    rw [mapCase]
    cases hlookup : lowerSpecials.lookup c.toNat with
    | some codes =>
      intro d hd
      obtain ⟨n, hn, rfl⟩ := List.mem_map.mp hd
      -- an entry of the table for special cases is settled as the whole table is
      obtain ⟨before, after, hentries, -⟩ := List.lookup_eq_some_iff.mp hlookup
      refine settled_lowerSpecials (c.toNat, codes) ?_ n hn
      rw [hentries]
      exact List.mem_append_right _ List.mem_cons_self
    | none =>
      cases hshift : caseShift? lowerRuns c.toNat with
      | some shift =>
        intro d hd
        obtain ⟨r, hr, hmaps, rfl⟩ := exists_run_of_caseShift? hshift
        rw [List.mem_singleton.mp hd]
        exact settled_of_maps hr hmaps
      | none =>
        intro d hd
        rw [List.mem_singleton.mp hd]
        refine ⟨hsigma, ?_⟩
        rw [lowerChar, if_neg hascii, mapCase]
        simp only [hlookup, hshift]

theorem settled_lowerBetween (before : List Char) (c : Char) (after : List Char) :
    ∀ d ∈ lowerBetween before c after, Settled d := by
  rw [lowerBetween]
  split
  · intro d hd
    rw [List.mem_singleton.mp hd]
    split
    · decide +kernel
    · decide +kernel
  · next hsigma => exact settled_lowerChar hsigma

theorem settled_lowerAfter (before cs : List Char) : ∀ d ∈ lowerAfter before cs, Settled d := by
  induction cs generalizing before with
  | nil => exact fun d hd => absurd hd List.not_mem_nil
  | cons c rest ih =>
    intro d hd
    rw [lowerAfter, List.mem_append] at hd
    rcases hd with hd | hd
    · exact settled_lowerBetween before c rest d hd
    · exact ih (c :: before) d hd

theorem lowerAfter_of_settled (before : List Char) {cs : List Char} (h : ∀ c ∈ cs, Settled c) :
    lowerAfter before cs = cs := by
  induction cs generalizing before with
  | nil => rfl
  | cons c rest ih =>
    obtain ⟨hsigma, hc⟩ := h c List.mem_cons_self
    rw [lowerAfter, lowerBetween, if_neg hsigma, hc, ih _ fun d hd => h d (List.mem_cons_of_mem c hd)]
    rfl

/-- A text in lower case stays as it is. -/
theorem lower_lower (s : String) : lower (lower s) = lower s := by
  apply String.toList_inj.mp
  rw [toList_lower, toList_lower, lowerAfter_of_settled _ (settled_lowerAfter [] s.toList)]

/-! ## ASCII letters -/

/-- Texts that differ only in the case of ASCII letters. -/
def Alike (s t : String) : Prop := s.toList.map Char.toLower = t.toList.map Char.toLower

/-- An ASCII letter and its capital are neighbours of one kind and have one lower case. -/
theorem toLower_ascii : ∀ n < 128,
    casedRanges.has (Char.ofNat n).toLower.toNat = casedRanges.has (Char.ofNat n).toNat ∧
      caseIgnorableRanges.has (Char.ofNat n).toLower.toNat = caseIgnorableRanges.has (Char.ofNat n).toNat ∧
      lowerChar (Char.ofNat n).toLower = lowerChar (Char.ofNat n) ∧ (Char.ofNat n).toLower ≠ 'Σ' := by
  decide +kernel

/-- Beyond ASCII there is no letter that `Char.toLower` changes. -/
theorem toLower_of_le {c : Char} (h : 128 ≤ c.toNat) : c.toLower = c := by
  delta Char.toLower
  rw [dif_neg]
  rintro ⟨-, hlast⟩
  have hlast : c.toNat ≤ 90 := UInt32.le_iff_toNat_le.mp hlast
  omega

theorem has_toLower (c : Char) :
    casedRanges.has c.toLower.toNat = casedRanges.has c.toNat ∧
      caseIgnorableRanges.has c.toLower.toNat = caseIgnorableRanges.has c.toNat := by
  rcases Nat.lt_or_ge c.toNat 128 with hascii | hascii
  · obtain ⟨hcased, hignorable, -, -⟩ := toLower_ascii c.toNat hascii
    rw [Char.ofNat_toNat] at hcased hignorable
    exact ⟨hcased, hignorable⟩
  · rw [toLower_of_le hascii]
    exact ⟨rfl, rfl⟩

theorem lowerChar_toLower (c : Char) :
    lowerChar c.toLower = lowerChar c ∧ (c.toLower = 'Σ' ↔ c = 'Σ') := by
  rcases Nat.lt_or_ge c.toNat 128 with hascii | hascii
  · obtain ⟨-, -, hlower, hsigma⟩ := toLower_ascii c.toNat hascii
    rw [Char.ofNat_toNat] at hlower hsigma
    refine ⟨hlower, iff_of_false hsigma ?_⟩
    rintro rfl
    exact absurd hascii (by decide)
  · rw [toLower_of_le hascii]
    exact ⟨rfl, Iff.rfl⟩

theorem meetsCased_map_toLower (cs : List Char) : meetsCased (cs.map Char.toLower) = meetsCased cs := by
  induction cs with
  | nil => rfl
  | cons c rest ih =>
    obtain ⟨hcased, hignorable⟩ := has_toLower c
    unfold meetsCased at ih ⊢
    rw [List.map_cons, List.dropWhile_cons, List.dropWhile_cons, hignorable]
    cases caseIgnorableRanges.has c.toNat with
    | true => exact ih
    | false => exact hcased

theorem lowerAfter_map_toLower (before cs : List Char) :
    lowerAfter (before.map Char.toLower) (cs.map Char.toLower) = lowerAfter before cs := by
  induction cs generalizing before with
  | nil => rfl
  | cons c rest ih =>
    obtain ⟨hlower, hsigma⟩ := lowerChar_toLower c
    -- the neighbours count for the capital sigma only, and only by what kind of characters they are
    have hhead : lowerBetween (before.map Char.toLower) c.toLower (rest.map Char.toLower) =
        lowerBetween before c rest := by
      simp only [lowerBetween, hsigma, hlower, meetsCased_map_toLower]
    rw [List.map_cons, lowerAfter, hhead, ← List.map_cons, ih (c :: before), lowerAfter]

/-- Lower case does not see the case of ASCII letters, whatever stands around them. -/
theorem lower_eq_of_alike {s t : String} (h : Alike s t) : lower s = lower t := by
  apply String.toList_inj.mp
  rw [toList_lower, toList_lower]
  calc lowerAfter [] s.toList
    _ = lowerAfter [] (s.toList.map Char.toLower) := (lowerAfter_map_toLower [] s.toList).symm
    _ = lowerAfter [] (t.toList.map Char.toLower) := by rw [h]
    _ = lowerAfter [] t.toList := lowerAfter_map_toLower [] t.toList

end Emission.Text
