import Emission.Proofs.Files.Tree
import Emission.Template.Shipped

/-!
# Changing trees of files

Whatever is done with a tree of files leaves a tree: files are written where a directory is there for them,
directories are made from the top down, and what is removed goes with all that is below it. Main statements:
`IsTree.place`, `IsTree.makeDirectories` and `IsTree.remove`; `Shipped.isTree_files` is the tree that is there from
the start.
-/

namespace Emission

namespace Files

variable {fs fs' : Files} {p : Path} {here d : Place}

/-! ## Putting something at a place -/

/-- A place where something may be put: there is a directory for it, and no directory is there already. -/
structure Free (fs : Files) (here : Place) : Prop where
  ne_nil : here.names ≠ []
  isName : ∀ name ∈ here.names, IsName name ∧ IsShort name
  inside : fs.look here.above = .directory here.above
  ne_directory : ∀ d, fs.look here ≠ .directory d

/-- What is put at a free place changes no directory. -/
theorem look_put_of_directory (hfree : ∀ d, fs.look here ≠ .directory d) (node : Node)
    (hd : fs.look d = .directory d) : (fs.put here node).look d = .directory d := by
  have hne : d ≠ here := fun heq => hfree d (heq ▸ hd)
  rw [look_eq_directory_iff, lookup_put, if_neg hne]
  exact look_eq_directory_iff.mp hd

theorem mem_put {node : Node} {n : Place × Node} (h : n ∈ (fs.put here node).nodes) :
    n.1 = here ∨ n ∈ fs.nodes := by
  unfold put at h
  split at h
  · obtain ⟨old, hold, rfl⟩ := List.mem_map.mp h
    split
    · exact .inl rfl
    · exact .inr hold
  · rcases List.mem_append.mp h with h | h
    · exact .inr h
    · exact .inl (congrArg Prod.fst (List.mem_singleton.mp h))

theorem nodup_put (h : (fs.nodes.map (·.1)).Nodup) (here : Place) (node : Node) :
    ((fs.put here node).nodes.map (·.1)).Nodup := by
  unfold put
  split
  · have hsame : (fs.nodes.map fun n => if n.1 = here then (here, node) else n).map (·.1) =
        fs.nodes.map (·.1) := by
      rw [List.map_map]
      refine List.map_congr_left fun n _ => ?_
      by_cases hn : n.1 = here
      · simp [hn]
      · simp [hn]
    rw [hsame]
    exact h
  · next hany =>
    rw [List.map_append]
    refine List.nodup_append.mpr ⟨h, List.pairwise_singleton _ _, ?_⟩
    intro place hplace other hother
    obtain rfl : other = here := List.mem_singleton.mp hother
    obtain ⟨n, hn, rfl⟩ := List.mem_map.mp hplace
    intro heq
    exact hany (List.any_eq_true.mpr ⟨n, hn, decide_eq_true heq⟩)

namespace IsTree

theorem put (h : fs.IsTree) (hfree : fs.Free here) (node : Node) : (fs.put here node).IsTree where
  nodup := nodup_put h.nodup here node
  ne_nil n hn := by
    rcases mem_put hn with heq | hold
    · rw [heq]
      exact hfree.ne_nil
    · exact h.ne_nil n hold
  isName n hn := by
    rcases mem_put hn with heq | hold
    · rw [heq]
      exact hfree.isName
    · exact h.isName n hold
  inside n hn := by
    refine look_put_of_directory hfree.ne_directory node ?_
    rcases mem_put hn with heq | hold
    · rw [heq]
      exact hfree.inside
    · exact h.inside n hold
  start base := look_put_of_directory hfree.ne_directory node (h.start base)

/-- Where a name leads to a file or to nothing, something may be put. -/
theorem free_of_advance (h : fs.IsTree) {found : Found}
    (hfound : ∀ d, found = .directory d → fs.look d = .directory d) {name : String}
    (hname : name = ".." ∨ IsName name) (hspot : (fs.advance found name).spot? = some here) :
    fs.Free here := by
  unfold advance at hspot
  split at hspot
  · next top =>
    have htop : fs.look top = .directory top := hfound top rfl
    split at hspot
    · cases hspot
    · next hup =>
      split at hspot
      · next hshort =>
        obtain rfl := place_of_look hspot
        refine ⟨by simp, ?_, ?_, fun d hd => ?_⟩
        · intro part hpart
          rcases List.mem_append.mp hpart with hpart | hpart
          · exact h.isName_of_look htop part hpart
          · rw [List.mem_singleton.mp hpart]
            exact ⟨hname.resolve_left hup, hshort⟩
        · exact (Place.above_further top name).symm ▸ htop
        · rw [hd] at hspot
          cases hspot
      · cases hspot
  all_goals cases hspot

theorem free_of_spot? (h : fs.IsTree) (hp : p.Proper) (hspot : fs.spot? p = some here) : fs.Free here := by
  obtain ⟨names, name, hparts, hname⟩ := exists_advance_of_spot? hspot
  refine h.free_of_advance (fun d hd => ?_) (hp name (by simp [hparts])) hname
  exact h.look_of_follow (p := ⟨p.base, names⟩) hd

theorem write (h : fs.IsTree) (hp : p.Proper) {w : Writing} (hwrite : fs.write p w = .ok fs') : fs'.IsTree := by
  unfold Files.write at hwrite
  split at hwrite
  · next here old hfind =>
    obtain rfl := Except.ok.inj hwrite
    exact h.put (h.free_of_spot? hp (congrArg Found.spot? hfind)) _
  · next here hfind =>
    obtain rfl := Except.ok.inj hwrite
    exact h.put (h.free_of_spot? hp (congrArg Found.spot? hfind)) _
  · split at hwrite
    · exact Except.ok.inj hwrite ▸ h
    · cases hwrite
  all_goals cases hwrite

/-! ## Making directories -/

theorem makeDirectories (h : fs.IsTree) (hp : p.Proper) : (fs.makeDirectories p).IsTree := by
  -- what was followed so far is there, if it is a directory
  let Made (state : Files × Found) : Prop :=
    state.1.IsTree ∧ ∀ d, state.2 = .directory d → state.1.look d = .directory d
  have hstart : Made (fs, .directory p.base.place) :=
    ⟨h, fun d hd => Found.directory.inj hd ▸ h.start p.base⟩
  unfold Files.makeDirectories
  refine (List.foldlRecOn p.parts _ hstart ?_ : Made _).1
  rintro ⟨fs, found⟩ ⟨htree, hfound⟩ name hname
  dsimp only
  split
  · next here hvacant =>
    have hfree : fs.Free here :=
      htree.free_of_advance hfound (hp name hname) (congrArg Found.spot? hvacant)
    refine ⟨htree.put hfree .directory, fun d hd => ?_⟩
    obtain rfl := Found.directory.inj hd
    rw [look_eq_directory_iff, lookup_put, if_pos rfl]
    exact ⟨rfl, .inr rfl⟩
  · exact ⟨htree, fun d hd => htree.look_of_advance hfound hd⟩

theorem place (h : fs.IsTree) (hp : p.Proper) {c : Content} (hplace : fs.place p c = .ok fs') : fs'.IsTree := by
  have hparent : (parent p).Proper := fun part hpart => hp part (List.dropLast_subset _ hpart)
  exact (h.makeDirectories hparent).write hp hplace

/-! ## Removing -/

end IsTree

/-- The place that a path leads to. -/
def Found.place? : Found → Option Place
  | .directory d | .file d _ | .full d | .vacant d => some d
  | _ => none

theorem place?_look (fs : Files) (here : Place) : (fs.look here).place? = some here := by
  unfold look
  split
  · rfl
  · split <;> rfl

/-- Paths from elsewhere do not lead to what comes with the library. -/
theorem base_ne_shipped_of_follow (fs : Files) (hp : p.base ≠ .shipped) (hd : (fs.follow p).place? = some d) :
    d.base ≠ .shipped := by
  -- no step leads into the files that are shipped: it keeps the base of the place it starts from
  let Elsewhere (found : Found) : Prop := ∀ d, found.place? = some d → d.base ≠ .shipped
  have hstart : Elsewhere (.directory p.base.place) := by
    intro d hd
    obtain rfl := Option.some.inj hd
    cases hbase : p.base with
    | shipped => exact absurd hbase hp
    | working | workingFull | root | doubleRoot => nofun
  have hwalk : Elsewhere (fs.follow p) := by
    refine List.foldlRecOn p.parts _ hstart ?_
    intro found hfound name _ d hd
    unfold advance at hd
    split at hd
    · next here =>
      have hhere : here.base ≠ .shipped := hfound here rfl
      split at hd
      · obtain rfl := Option.some.inj hd
        unfold Place.above
        split
        · nofun
        · exact hhere
      · split at hd
        · rw [place?_look] at hd
          obtain rfl := Option.some.inj hd
          exact hhere
        · cases hd
    all_goals cases hd
  exact hwalk d hd

/-- What is left when a place is removed with all that is below it. -/
def without (fs : Files) (here : Place) : Files :=
  { fs with nodes := fs.nodes.filter fun n => (below? here n.1).isNone }

theorem look_without (hd : below? here d = none) : (fs.without here).look d = fs.look d := by
  have hkept : (below? here d).isNone = true := by rw [hd, Option.isNone_none]
  have hlookup : (fs.without here).nodes.lookup d = fs.nodes.lookup d :=
    Entries.lookup_filter_of_pos (fun place => (below? here place).isNone) hkept fs.nodes
  rw [look, look, hlookup]

namespace IsTree

theorem without (h : fs.IsTree) (hhere : here.base ≠ .shipped) : (fs.without here).IsTree where
  nodup := (List.filter_sublist.map _).nodup h.nodup
  ne_nil n hn := h.ne_nil n (List.mem_filter.mp hn).1
  isName n hn := h.isName n (List.mem_filter.mp hn).1
  inside n hn := by
    obtain ⟨hmem, hkept⟩ := List.mem_filter.mp hn
    have habove : below? here n.1.above = none := by
      rw [Option.eq_none_iff_forall_ne_some]
      intro names hnames
      -- a node of a directory that is below the place is below it as well
      obtain ⟨name, hname⟩ := Place.exists_further_above (h.ne_nil n hmem)
      rw [below?_eq_some_iff.mp hnames, ← Place.further_append] at hname
      rw [below?_eq_some_iff.mpr hname] at hkept
      cases hkept
    rw [look_without habove]
    exact h.inside n hmem
  start base := by
    cases base with
    | shipped =>
      have hnone : below? here Base.shipped.place = none := if_neg fun hbelow => hhere hbelow.1
      rw [look_without hnone]
      exact h.start .shipped
    | working | workingFull | root | doubleRoot => exact look_eq_directory_iff.mpr ⟨rfl, .inl rfl⟩

theorem remove (h : fs.IsTree) (hp : p.base ≠ .shipped) (hremove : fs.remove p = .ok fs') : fs'.IsTree := by
  have helsewhere {found : Found} (hfind : fs.find p = found) (hlong : found ≠ .overlong)
      (hnull : found ≠ .unnamable) {here : Place} (hhere : found.place? = some here) : here.base ≠ .shipped :=
    base_ne_shipped_of_follow fs hp (follow_of_find hfind hlong hnull ▸ hhere)
  unfold Files.remove at hremove
  split at hremove
  · next hfind =>
    obtain rfl := Except.ok.inj hremove
    exact h.without (helsewhere hfind nofun nofun rfl)
  · next hfind =>
    obtain rfl := Except.ok.inj hremove
    exact h.without (helsewhere hfind nofun nofun rfl)
  · next hfind =>
    obtain rfl := Except.ok.inj hremove
    exact h.without (helsewhere hfind nofun nofun rfl)
  all_goals cases hremove

end IsTree

end Files

namespace Template.Shipped

theorem isTree_files : files.IsTree where
  nodup := by decide +kernel
  ne_nil := by decide +kernel
  isName := by decide +kernel
  inside := by decide +kernel
  start := by
    rintro ⟨⟩
    all_goals decide +kernel

end Template.Shipped

end Emission
