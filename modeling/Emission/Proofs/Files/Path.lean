import Emission.Files.Path

/-!
# Names in paths

A path that is written as names with slashes between them is read as these names. Main statement:
`append_intercalate`, a path that is continued by such a text goes on with the names.
-/

namespace Emission.Files

/-- A name that a file or directory can have. -/
def IsName (name : String) : Prop := name ≠ "" ∧ name ≠ "." ∧ name ≠ ".." ∧ '/' ∉ name.toList

instance (name : String) : Decidable (IsName name) :=
  inferInstanceAs (Decidable (name ≠ "" ∧ name ≠ "." ∧ name ≠ ".." ∧ '/' ∉ name.toList))

namespace Path

/-- Every part of the path is a name or leads upwards. -/
def Proper (p : Path) : Prop := ∀ part ∈ p.parts, part = ".." ∨ IsName part

/-- The path continued by names. -/
def further (p : Path) (names : List String) : Path := { p with parts := p.parts ++ names }

end Path

/-! ## Pieces between slashes -/

theorem exists_slashPieces (cs : List Char) : ∃ piece rest, slashPieces cs = piece :: rest := by
  cases cs with
  | nil => exact ⟨[], [], rfl⟩
  | cons c cs =>
    rw [slashPieces]
    split
    · exact ⟨_, _, rfl⟩
    · split
      · exact ⟨_, _, rfl⟩
      · exact ⟨_, _, rfl⟩

theorem slashPieces_slash (cs : List Char) : slashPieces ('/' :: cs) = [] :: slashPieces cs := by
  obtain ⟨piece, rest, hcs⟩ := exists_slashPieces cs
  rw [slashPieces, hcs]
  rfl

theorem slashPieces_of_ne {c : Char} (hc : c ≠ '/') {cs piece : List Char} {rest : List (List Char)}
    (hcs : slashPieces cs = piece :: rest) : slashPieces (c :: cs) = (c :: piece) :: rest := by
  rw [slashPieces, hcs]
  exact if_neg hc

theorem slashPieces_of_notMem {piece : List Char} (h : '/' ∉ piece) : slashPieces piece = [piece] := by
  induction piece with
  | nil => rfl
  | cons c cs ih =>
    rw [List.mem_cons, not_or] at h
    exact slashPieces_of_ne (Ne.symm h.1) (ih h.2)

theorem slashPieces_append_slash {piece : List Char} (h : '/' ∉ piece) (cs : List Char) :
    slashPieces (piece ++ '/' :: cs) = piece :: slashPieces cs := by
  induction piece with
  | nil => exact slashPieces_slash cs
  | cons c piece ih =>
    rw [List.mem_cons, not_or] at h
    exact slashPieces_of_ne (Ne.symm h.1) (ih h.2)

theorem slashPieces_intercalate {pieces : List (List Char)} (hne : pieces ≠ [])
    (h : ∀ piece ∈ pieces, '/' ∉ piece) : slashPieces (['/'].intercalate pieces) = pieces := by
  induction pieces with
  | nil => exact absurd rfl hne
  | cons piece rest ih =>
    obtain ⟨hpiece, hrest⟩ := List.forall_mem_cons.mp h
    cases rest with
    | nil =>
      rw [List.intercalate_singleton]
      exact slashPieces_of_notMem hpiece
    | cons next more =>
      rw [List.intercalate_cons_cons, List.append_assoc, List.singleton_append,
        slashPieces_append_slash hpiece, ih (List.cons_ne_nil _ _) hrest]

/-- No piece between slashes has one in it. -/
theorem slash_notMem_of_mem_slashPieces {cs piece : List Char} (h : piece ∈ slashPieces cs) :
    '/' ∉ piece := by
  induction cs generalizing piece with
  | nil =>
    obtain rfl := List.mem_singleton.mp h
    exact List.not_mem_nil
  | cons c cs ih =>
    obtain ⟨first, rest, hcs⟩ := exists_slashPieces cs
    by_cases hc : c = '/'
    · subst hc
      rw [slashPieces_slash] at h
      rcases List.mem_cons.mp h with rfl | h
      · exact List.not_mem_nil
      · exact ih h
    · rw [slashPieces_of_ne hc hcs] at h
      rcases List.mem_cons.mp h with rfl | h
      · rw [List.mem_cons, not_or]
        exact ⟨Ne.symm hc, ih (hcs ▸ List.mem_cons_self)⟩
      · exact ih (hcs ▸ List.mem_cons_of_mem first h)

/-! ## The parts of a path -/

/-- A path that is written as names with slashes between them has these names as its parts. -/
theorem pathParts_intercalate {names : List String} (hne : names ≠ []) (h : ∀ name ∈ names, IsName name) :
    pathParts ("/".intercalate names) = names := by
  have hpieces : slashPieces ("/".intercalate names).toList = names.map String.toList := by
    rw [String.toList_intercalate]
    refine slashPieces_intercalate (mt List.map_eq_nil_iff.mp hne) fun piece hpiece => ?_
    obtain ⟨name, hname, rfl⟩ := List.mem_map.mp hpiece
    exact (h name hname).2.2.2
  have hkept : (names.map String.toList).filter (fun p => p ≠ [] ∧ p ≠ ['.']) = names.map String.toList := by
    refine List.filter_eq_self.mpr fun piece hpiece => decide_eq_true ?_
    obtain ⟨name, hname, rfl⟩ := List.mem_map.mp hpiece
    obtain ⟨hempty, hdot, -, -⟩ := h name hname
    exact ⟨fun hno => hempty (String.toList_inj.mp hno), fun hno => hdot (String.toList_inj.mp hno)⟩
  rw [pathParts, hpieces, hkept, List.map_map]
  exact List.map_id'' (fun name => String.ofList_toList) names

/-- Names with slashes between them start with no slash. -/
theorem isAbsolute_intercalate {names : List String} (hne : names ≠ []) (h : ∀ name ∈ names, IsName name) :
    isAbsolute ("/".intercalate names) = false := by
  obtain ⟨first, rest, rfl⟩ := List.exists_cons_of_ne_nil hne
  obtain ⟨hempty, -, -, hslash⟩ := h first List.mem_cons_self
  obtain ⟨c, cs, hfirst⟩ := List.exists_cons_of_ne_nil fun hnil => hempty (String.toList_inj.mp hnil)
  have hc : c ≠ '/' := fun hc => hslash (by simp [hfirst, hc])
  have hhead : ("/".intercalate (first :: rest)).toList.head? = some c := by
    rw [String.toList_intercalate, List.map_cons]
    cases rest with
    | nil => rw [List.map_nil, List.intercalate_singleton, hfirst, List.head?_cons]
    | cons next more => rw [List.map_cons, List.intercalate_cons_cons, hfirst, List.cons_append, List.cons_append,
        List.head?_cons]
  rw [isAbsolute, hhead]
  exact decide_eq_false fun heq => hc (Option.some.inj heq)

/-- A path that is continued by names with slashes between them goes on with the names. -/
theorem append_intercalate (p : Path) {names : List String} (hne : names ≠ []) (h : ∀ name ∈ names, IsName name) :
    p.append ("/".intercalate names) = p.further names := by
  rw [Path.append, isAbsolute_intercalate hne h, pathParts_intercalate hne h]
  rfl

/-- A written path has parts that are names or lead upwards. -/
theorem proper_ofText (s : String) : (Path.ofText s).Proper := by
  intro part hpart
  obtain ⟨piece, hpiece, rfl⟩ := List.mem_map.mp hpart
  obtain ⟨hmem, hkept⟩ := List.mem_filter.mp hpiece
  obtain ⟨hempty, hdot⟩ := of_decide_eq_true hkept
  by_cases hup : String.ofList piece = ".."
  · exact .inl hup
  · refine .inr ⟨fun hno => hempty ?_, fun hno => hdot ?_, hup, ?_⟩
    · exact String.ofList_injective hno
    · exact String.ofList_injective hno
    · rw [String.toList_ofList]
      exact slash_notMem_of_mem_slashPieces hmem

end Emission.Files
