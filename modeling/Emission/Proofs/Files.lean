import Emission.Files
import Emission.Proofs.Fault

/-!
# Reading and writing files

A file that is written holds what was written, and every other path leads where it led. Main statements:
`written_of_write`, and `Content.read_text` for what is read back from a text that has no carriage returns.
-/

namespace Emission

namespace Text

theorem unifyNewlines_of_not_mem {cs : List Char} (h : '\r' ∉ cs) : unifyNewlines cs = cs := by
  induction cs with
  | nil => rfl
  | cons c rest ih =>
    rw [List.mem_cons, not_or] at h
    rw [unifyNewlines, ih h.2]
    · intro rest' hc
      exact absurd hc.symm h.1
    · intro hc
      exact absurd hc.symm h.1

/-- No carriage return is left. -/
theorem return_notMem_unifyNewlines (cs : List Char) : '\r' ∉ unifyNewlines cs := by
  induction cs using unifyNewlines.induct with
  | case1 => simp [unifyNewlines]
  | case2 rest ih => simpa [unifyNewlines] using ih
  | case3 rest hrest ih =>
    rw [unifyNewlines]
    · simpa using ih
    · exact hrest
  | case4 c rest hpair hreturn ih =>
    rw [unifyNewlines]
    · rw [List.mem_cons, not_or]
      exact ⟨fun hc => hreturn hc.symm, ih⟩
    · exact hpair
    · exact hreturn

theorem unifyNewlines_unifyNewlines (cs : List Char) :
    unifyNewlines (unifyNewlines cs) = unifyNewlines cs :=
  unifyNewlines_of_not_mem (return_notMem_unifyNewlines cs)

end Text

namespace Files.Content

/-- A text without carriage returns is read as it is. -/
theorem read_text {s : String} (h : '\r' ∉ s.toList) : (text s).read = .ok s := by
  rw [read, Text.unifyNewlines_of_not_mem h, String.ofList_toList]

end Files.Content

namespace Files

variable {fs fs' : Files} {p : Path} {here : Place} {c : Content}

/-! ## Where files are -/

/-- The place of a file that is there or may be put there. -/
def Found.spot? : Found → Option Place
  | .file here _ | .vacant here => some here
  | _ => none

def Found.content? : Found → Option Content
  | .file _ c => some c
  | _ => none

/-- The place of the file that a path leads to, be it there or not. -/
def spot? (fs : Files) (p : Path) : Option Place := (fs.find p).spot?

/-- What the file holds that a path leads to. -/
def content? (fs : Files) (p : Path) : Option Content := (fs.find p).content?

theorem content?_eq_some_iff : fs.content? p = some c ↔ ∃ here, fs.find p = .file here c := by
  unfold content?
  constructor
  · intro h
    cases hfound : fs.find p with
    | file here d =>
      rw [hfound] at h
      exact ⟨here, by rw [Option.some.inj h]⟩
    | _ =>
      rw [hfound] at h
      cases h
  · rintro ⟨here, hfound⟩
    rw [hfound]
    rfl

theorem holds_of_content? (h : fs.content? p = some c) : fs.holds p = .ok true := by
  obtain ⟨here, hfound⟩ := content?_eq_some_iff.mp h
  rw [holds, hfound]

theorem read_of_content? (h : fs.content? p = some c) :
    fs.read p = c.read.mapError Fault.undecodable := by
  obtain ⟨here, hfound⟩ := content?_eq_some_iff.mp h
  rw [find] at hfound
  rw [read, readAs, hfound]

/-- A file that holds something is somewhere. -/
theorem exists_spot? (h : fs.content? p = some c) : ∃ here, fs.spot? p = some here := by
  obtain ⟨here, hfound⟩ := content?_eq_some_iff.mp h
  exact ⟨here, congrArg Found.spot? hfound⟩

/-! ## Putting a file somewhere -/

theorem lookup_replace (nodes : List (Place × Node)) (here place : Place) (node : Node) :
    (nodes.map fun n => if n.1 = here then (here, node) else n).lookup place =
      if place = here then (nodes.lookup here).map fun _ => node else nodes.lookup place := by
  induction nodes with
  | nil => simp
  | cons n rest ih =>
    obtain ⟨k, old⟩ := n
    rw [List.map_cons, List.lookup_cons, List.lookup_cons, List.lookup_cons, ih]
    by_cases hk : k = here
    · subst hk
      by_cases hplace : place = k
      · simp [hplace]
      · simp [hplace, beq_eq_false_iff_ne.mpr hplace]
    · by_cases hplace : place = k
      · subst hplace
        simp [hk]
      · simp [hk, beq_eq_false_iff_ne.mpr hplace, beq_eq_false_iff_ne.mpr (Ne.symm hk)]

theorem lookup_put (fs : Files) (here place : Place) (node : Node) :
    (fs.put here node).nodes.lookup place =
      if place = here then some node else fs.nodes.lookup place := by
  unfold put
  split
  · next hany =>
    obtain ⟨old, hold⟩ : ∃ old, fs.nodes.lookup here = some old := by
      refine Option.isSome_iff_exists.mp (List.lookup_isSome_iff.mpr ?_)
      obtain ⟨n, hn, heq⟩ := List.any_eq_true.mp hany
      exact ⟨n, hn, beq_iff_eq.mpr (of_decide_eq_true heq).symm⟩
    rw [lookup_replace, hold, Option.map_some]
  · next hany =>
    have hnone : fs.nodes.lookup here = none := by
      refine List.lookup_eq_none_iff.mpr fun n hn => bne_iff_ne.mpr fun heq => hany ?_
      exact List.any_eq_true.mpr ⟨n, hn, decide_eq_true heq.symm⟩
    rw [List.lookup_append, List.lookup_cons]
    by_cases hplace : place = here
    · simp [hplace, hnone]
    · simp [hplace, beq_eq_false_iff_ne.mpr hplace]

/-- What a path led to, and what it leads to when a file was put where there was no directory. A path that
leads nowhere still does, if only because there is a file in its way. -/
inductive Becomes (here : Place) (c : Content) : Found → Found → Prop
  | directory (d : Place) : Becomes here c (.directory d) (.directory d)
  | replaced (old : Content) : Becomes here c (.file here old) (.file here c)
  | created : Becomes here c (.vacant here) (.file here c)
  | file {place : Place} (hne : place ≠ here) (old : Content) :
    Becomes here c (.file place old) (.file place old)
  | vacant {place : Place} (hne : place ≠ here) : Becomes here c (.vacant place) (.vacant place)
  | full (place : Place) : Becomes here c (.full place) (.full place)
  | overlong : Becomes here c .overlong .overlong
  | unnamable : Becomes here c .unnamable .unnamable
  | nowhere {f f' : Found} (hf : f = .astray ∨ f = .blocked) (hf' : f' = .astray ∨ f' = .blocked) :
    Becomes here c f f'

theorem becomes_look (hhere : (fs.look here).spot? = some here) (c : Content) (place : Place) :
    Becomes here c (fs.look place) ((fs.put here (.file c)).look place) := by
  unfold look at hhere ⊢
  rw [lookup_put]
  by_cases hplace : place = here
  · -- at the place itself there was a file or nothing, for it is a spot to write to
    subst hplace
    split at hhere
    · cases hhere
    · next hnames =>
      rw [if_neg hnames, if_neg hnames, if_pos rfl]
      cases hnode : fs.nodes.lookup place with
      | none => exact .created
      | some node =>
        rw [hnode] at hhere
        cases node with
        | file old => exact .replaced old
        | directory | full => cases hhere
  · rw [if_neg hplace]
    split
    · exact .directory place
    · cases fs.nodes.lookup place with
      | none => exact .vacant hplace
      | some node =>
        cases node with
        | directory => exact .directory place
        | file old => exact .file hplace old
        | full => exact .full place

theorem becomes_advance (hhere : (fs.look here).spot? = some here) {f f' : Found}
    (h : Becomes here c f f') (name : String) :
    Becomes here c (fs.advance f name) ((fs.put here (.file c)).advance f' name) := by
  cases h with
  | directory d =>
    unfold advance
    dsimp only
    split
    · exact .directory d.above
    · split
      · exact becomes_look hhere c _
      · exact .overlong
  | overlong => exact .overlong
  | unnamable => exact .unnamable
  | replaced | file | full => exact .nowhere (.inr rfl) (.inr rfl)
  | created => exact .nowhere (.inl rfl) (.inr rfl)
  | vacant => exact .nowhere (.inl rfl) (.inl rfl)
  | nowhere hf hf' =>
    obtain rfl | rfl := hf <;> obtain rfl | rfl := hf'
    · exact .nowhere (.inl rfl) (.inl rfl)
    · exact .nowhere (.inl rfl) (.inr rfl)
    · exact .nowhere (.inr rfl) (.inl rfl)
    · exact .nowhere (.inr rfl) (.inr rfl)

theorem becomes_follow (hhere : (fs.look here).spot? = some here) (c : Content) (q : Path) :
    Becomes here c (fs.follow q) ((fs.put here (.file c)).follow q) := by
  have hwalk : ∀ (names : List String) {f f' : Found}, Becomes here c f f' →
      Becomes here c (names.foldl fs.advance f) (names.foldl (fs.put here (.file c)).advance f') := by
    intro names
    induction names with
    | nil => exact id
    | cons name rest ih => exact fun h => ih (becomes_advance hhere h name)
  exact hwalk q.parts (.directory _)

/-- There is as much room for paths as there was. -/
theorem fits_put (fs : Files) (here : Place) (node : Node) : (fs.put here node).fits = fs.fits := by
  unfold put
  split
  · rfl
  · rfl

theorem becomes_find (hhere : (fs.look here).spot? = some here) (c : Content) (q : Path) :
    Becomes here c (fs.find q) ((fs.put here (.file c)).find q) := by
  unfold find findAs
  rw [fits_put]
  split
  · exact .unnamable
  · split
    · exact becomes_follow hhere c q
    · exact .overlong

/-! ## Writing -/

theorem place_of_look {place : Place} (h : (fs.look place).spot? = some here) : place = here := by
  unfold look at h
  split at h
  · cases h
  · split at h
    · cases h
    · exact Option.some.inj h
    · cases h
    · exact Option.some.inj h

theorem follow_of_spot? (h : fs.spot? p = some here) : fs.find p = fs.follow p := by
  unfold spot? at h
  unfold find findAs at h ⊢
  split at h
  · cases h
  · next hnull =>
    split at h
    · next hfits => rw [if_neg hnull, if_pos hfits]
    · cases h

/-- Where a file is or may be put is found at the last name of the path. -/
theorem exists_advance_of_spot? (h : fs.spot? p = some here) :
    ∃ names name, p.parts = names ++ [name] ∧
      (fs.advance (names.foldl fs.advance (.directory p.base.place)) name).spot? = some here := by
  rw [spot?, follow_of_spot? h, follow] at h
  rcases List.eq_nil_or_concat p.parts with hparts | ⟨names, name, hparts⟩
  · rw [hparts] at h
    cases h
  · rw [List.concat_eq_append] at hparts
    rw [hparts, List.foldl_append] at h
    exact ⟨names, name, hparts, h⟩

theorem look_of_advance_spot? {found : Found} {name : String} (h : (fs.advance found name).spot? = some here) :
    (fs.look here).spot? = some here := by
  unfold advance at h
  split at h
  · split at h
    · cases h
    · split at h
      · have hplace := place_of_look h
        rw [hplace] at h
        exact h
      · cases h
  all_goals cases h

/-- A file is or may be put where one is found. -/
theorem look_of_spot? (h : fs.spot? p = some here) : (fs.look here).spot? = some here := by
  obtain ⟨names, name, -, hname⟩ := exists_advance_of_spot? h
  exact look_of_advance_spot? hname

/-- The files after a file was written: it holds this content, every path leads where it led, and no other file
holds anything else. -/
structure Written (fs : Files) (p : Path) (c : Content) (fs' : Files) : Prop where
  content : fs'.content? p = some c
  spot_eq : ∀ q, fs'.spot? q = fs.spot? q
  content_of_ne : ∀ q, fs.spot? q ≠ fs.spot? p → fs'.content? q = fs.content? q

theorem written_put (h : fs.spot? p = some here) (c : Content) : Written fs p c (fs.put here (.file c)) := by
  -- putting the file changes what a path leads to only in the ways of `Becomes`
  have hbecomes := becomes_find (look_of_spot? h) c
  refine ⟨?_, fun q => ?_, fun q hq => ?_⟩
  · have hp := hbecomes p
    unfold content?
    unfold spot? at h
    generalize (fs.put here (.file c)).find p = f' at hp ⊢
    generalize fs.find p = f at hp h
    cases hp with
    | replaced | created => rfl
    | file hne | vacant hne => exact absurd (Option.some.inj h) hne
    | directory | full | overlong | unnamable => cases h
    | nowhere hf => obtain rfl | rfl := hf <;> cases h
  · have hp := hbecomes q
    unfold spot?
    generalize (fs.put here (.file c)).find q = f' at hp ⊢
    generalize fs.find q = f at hp ⊢
    cases hp with
    | nowhere hf hf' => obtain rfl | rfl := hf <;> obtain rfl | rfl := hf' <;> rfl
    | _ => rfl
  · have hp := hbecomes q
    rw [h] at hq
    unfold content?
    unfold spot? at hq
    generalize (fs.put here (.file c)).find q = f' at hp ⊢
    generalize fs.find q = f at hp hq ⊢
    cases hp with
    | replaced | created => exact absurd rfl hq
    | nowhere hf hf' => obtain rfl | rfl := hf <;> obtain rfl | rfl := hf' <;> rfl
    | _ => rfl

theorem written_of_write {w : Writing} (h : fs.write p w = .ok fs') (hspot : fs.spot? p = some here) :
    Written fs p (w.onto (fs.content? p)) fs' := by
  unfold write at h
  split at h
  · next here old hfound =>
    obtain rfl := Except.ok.inj h
    have hcontent : fs.content? p = some old := congrArg Found.content? hfound
    rw [hcontent]
    exact written_put (congrArg Found.spot? hfound) _
  · next here hfound =>
    obtain rfl := Except.ok.inj h
    have hcontent : fs.content? p = none := congrArg Found.content? hfound
    rw [hcontent]
    exact written_put (congrArg Found.spot? hfound) _
  · next hfound =>
    rw [spot?, hfound] at hspot
    cases hspot
  all_goals cases h

/-- Without a place for a file, writing changes nothing. -/
theorem eq_of_write {w : Writing} (h : fs.write p w = .ok fs') (hspot : fs.spot? p = none) : fs' = fs := by
  unfold write at h
  unfold spot? at hspot
  split at h
  · next hfound =>
    rw [hfound] at hspot
    cases hspot
  · next hfound =>
    rw [hfound] at hspot
    cases hspot
  · split at h
    · exact (Except.ok.inj h).symm
    · cases h
  all_goals cases h

/-- A file can be written where one is or may be put. -/
theorem exists_write (h : fs.spot? p = some here) (w : Writing) : ∃ fs', fs.write p w = .ok fs' := by
  unfold write
  unfold spot? at h
  cases hfound : fs.find p with
  | file here old => exact ⟨_, rfl⟩
  | vacant here => exact ⟨_, rfl⟩
  | _ =>
    rw [hfound] at h
    cases h

end Files

end Emission
