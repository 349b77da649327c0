import Emission.Entries
import Emission.Proofs.Files
import Emission.Proofs.Files.Path
import Emission.Proofs.Text.Order
import Mathlib.Data.List.Induction

/-!
# Trees of files

Files form a tree if every place is there once and every node stands in a directory that is there. Then a path that
is continued by names leads where these names are, and the files that are listed below a directory are those that
such paths lead to. Main statement: `mem_filesBelow_iff`.
-/

namespace Emission.Files

variable {fs : Files} {p : Path} {here place top d : Place} {c : Content}

/-- The place that names lead to from another one. -/
def Place.further (here : Place) (names : List String) : Place := { here with names := here.names ++ names }

/-- Every node is there once, in a directory that is there, and paths start at directories. -/
structure IsTree (fs : Files) : Prop where
  nodup : (fs.nodes.map (·.1)).Nodup
  ne_nil : ∀ n ∈ fs.nodes, n.1.names ≠ []
  isName : ∀ n ∈ fs.nodes, ∀ name ∈ n.1.names, IsName name ∧ IsShort name
  inside : ∀ n ∈ fs.nodes, fs.look n.1.above = .directory n.1.above
  start : ∀ base : Base, fs.look base.place = .directory base.place

/-! ## What is at a place -/

theorem Place.further_nil (here : Place) : here.further [] = here := by
  rw [further, List.append_nil]

theorem Place.further_append (here : Place) (names more : List String) :
    here.further (names ++ more) = (here.further names).further more := by
  rw [further, further, further, List.append_assoc]

theorem Place.above_further (here : Place) (name : String) : (here.further [name]).above = here := by
  rw [above, further, if_neg (by simp)]
  simp

theorem Place.exists_further_above (h : here.names ≠ []) : ∃ name, here = here.above.further [name] := by
  obtain ⟨base, names⟩ := here
  obtain ⟨before, name, rfl⟩ := (List.eq_nil_or_concat names).resolve_left h
  rw [List.concat_eq_append]
  have habove : (⟨base, before ++ [name]⟩ : Place).above = ⟨base, before⟩ := above_further ⟨base, before⟩ name
  exact ⟨name, by rw [habove, further]⟩

theorem look_eq_directory_iff :
    fs.look here = .directory d ↔ d = here ∧ (here.names = [] ∨ fs.nodes.lookup here = some .directory) := by
  unfold look
  by_cases hnames : here.names = []
  · simp [hnames, eq_comm]
  · rw [if_neg hnames]
    rcases fs.nodes.lookup here with _ | _ | _ | _ <;> simp [hnames, eq_comm]

/-- A file, be it one that holds something or a device. -/
def Found.isFile : Found → Bool
  | .file .. | .full _ => true
  | _ => false

theorem isFile_look_iff :
    (fs.look here).isFile = true ↔
      here.names ≠ [] ∧ ∃ node ≠ .directory, fs.nodes.lookup here = some node := by
  unfold look
  by_cases hnames : here.names = []
  · simp [hnames, Found.isFile]
  · rw [if_neg hnames]
    rcases fs.nodes.lookup here with _ | _ | _ | _ <;> simp [hnames, Found.isFile]

/-- A node is what is found at its place. -/
theorem IsTree.lookup_eq_some_iff (h : fs.IsTree) {node : Node} :
    fs.nodes.lookup here = some node ↔ (here, node) ∈ fs.nodes :=
  ⟨Entries.mem_of_lookup, Entries.lookup_of_mem h.nodup⟩

/-! ## Following names -/

/-- Apart from texts for which there is no room, a path leads where its names lead. -/
theorem follow_of_find {found : Found} (hfind : fs.find p = found) (hlong : found ≠ .overlong)
    (hnull : found ≠ .unnamable) : fs.follow p = found := by
  unfold find findAs at hfind
  split at hfind
  · exact absurd hfind.symm hnull
  · split at hfind
    · exact hfind
    · exact absurd hfind.symm hlong

namespace IsTree

theorem look_above (h : fs.IsTree) (hdir : fs.look here = .directory here) :
    fs.look here.above = .directory here.above := by
  rcases (look_eq_directory_iff.mp hdir).2 with hnames | hlookup
  · rw [Place.above, if_pos hnames]
    exact look_eq_directory_iff.mpr ⟨rfl, .inl rfl⟩
  · exact h.inside _ (Entries.mem_of_lookup hlookup)

theorem isName_of_look (h : fs.IsTree) (hdir : fs.look here = .directory here) :
    ∀ name ∈ here.names, IsName name ∧ IsShort name := by
  rcases (look_eq_directory_iff.mp hdir).2 with hnames | hlookup
  · rw [hnames]
    exact fun _ hname => absurd hname List.not_mem_nil
  · exact h.isName _ (Entries.mem_of_lookup hlookup)

theorem look_of_advance (h : fs.IsTree) {found : Found}
    (hfound : ∀ d, found = .directory d → fs.look d = .directory d) {name : String}
    (hname : fs.advance found name = .directory d) : fs.look d = .directory d := by
  unfold advance at hname
  split at hname
  · next here =>
    have hhere : fs.look here = .directory here := hfound here rfl
    split at hname
    · obtain rfl := Found.directory.inj hname
      exact h.look_above hhere
    · split at hname
      · obtain ⟨rfl, -⟩ := look_eq_directory_iff.mp hname
        exact hname
      · cases hname
  all_goals cases hname

/-- A directory that names lead to is there. -/
theorem look_of_follow (h : fs.IsTree) (hfollow : fs.follow p = .directory d) : fs.look d = .directory d := by
  have hwalk : ∀ (names : List String) (found : Found),
      (∀ d, found = .directory d → fs.look d = .directory d) →
      ∀ d, names.foldl fs.advance found = .directory d → fs.look d = .directory d := by
    intro names
    induction names with
    | nil => exact fun _ hfound => hfound
    | cons name rest ih => exact fun found hfound => ih _ fun d hd => h.look_of_advance hfound hd
  refine hwalk p.parts _ (fun d hd => ?_) d hfollow
  obtain rfl := Found.directory.inj hd
  exact h.start p.base

/-- A directory that a path leads to is there. -/
theorem look_of_find (h : fs.IsTree) (hfind : fs.find p = .directory d) : fs.look d = .directory d :=
  h.look_of_follow (follow_of_find hfind nofun nofun)

end IsTree

theorem foldl_advance_append (names : List String) (name : String) (found : Found) :
    (names ++ [name]).foldl fs.advance found = fs.advance (names.foldl fs.advance found) name :=
  List.foldl_append

/-- From a directory, names lead to a directory only where they say. -/
theorem eq_further_of_walk {names : List String} (hnames : ∀ name ∈ names, IsName name)
    (hwalk : names.foldl fs.advance (.directory top) = .directory d) : d = top.further names := by
  induction names using List.reverseRecOn generalizing d with
  | nil => rw [Place.further_nil, Found.directory.inj hwalk]
  | append_singleton names name ih =>
    have hbefore : ∀ name ∈ names, IsName name := fun n hn => hnames n (List.mem_append_left _ hn)
    have hup : name ≠ ".." := (hnames name (List.mem_append_right _ List.mem_cons_self)).2.2.1
    rw [foldl_advance_append] at hwalk
    unfold advance at hwalk
    split at hwalk
    · next here hhere =>
      rw [if_neg hup] at hwalk
      split at hwalk
      · obtain ⟨rfl, -⟩ := look_eq_directory_iff.mp hwalk
        rw [Place.further_append, ← ih hbefore hhere]
        rfl
      · cases hwalk
    all_goals cases hwalk

/-- A directory below another one can be reached from there. -/
theorem IsTree.walk_further (h : fs.IsTree) {names : List String} (hnames : ∀ name ∈ names, IsName name)
    (hdir : fs.look (top.further names) = .directory (top.further names)) :
    names.foldl fs.advance (.directory top) = .directory (top.further names) := by
  induction names using List.reverseRecOn with
  | nil => rw [Place.further_nil, List.foldl_nil]
  | append_singleton names name ih =>
    have hbefore : ∀ name ∈ names, IsName name := fun n hn => hnames n (List.mem_append_left _ hn)
    have hup : name ≠ ".." := (hnames name (List.mem_append_right _ List.mem_cons_self)).2.2.1
    have hshort : IsShort name := (h.isName_of_look hdir name (by simp [Place.further])).2
    rw [Place.further_append] at hdir ⊢
    have habove := h.look_above hdir
    rw [Place.above_further] at habove
    rw [foldl_advance_append, ih hbefore habove, advance, if_neg hup, if_pos hshort]
    exact hdir

/-- What is looked up at the end of names from a directory, if it is a file, is looked up where they say. -/
theorem IsTree.isFile_walk_iff (h : fs.IsTree) {names : List String} (hne : names ≠ [])
    (hnames : ∀ name ∈ names, IsName name) :
    (names.foldl fs.advance (.directory top)).isFile = true ↔
      ∃ node ≠ .directory, (top.further names, node) ∈ fs.nodes := by
  -- the walk to the last name ends in a directory, and only the last step can find the file
  obtain ⟨before, name, rfl⟩ := (List.eq_nil_or_concat names).resolve_left hne
  rw [List.concat_eq_append] at hnames ⊢
  have hbefore : ∀ name ∈ before, IsName name := fun n hn => hnames n (List.mem_append_left _ hn)
  have hup : name ≠ ".." := (hnames name (List.mem_append_right _ List.mem_cons_self)).2.2.1
  rw [foldl_advance_append]
  constructor
  · intro hwalk
    unfold advance at hwalk
    split at hwalk
    · next here hhere =>
      rw [if_neg hup] at hwalk
      split at hwalk
      · obtain ⟨-, node, hnode, hlookup⟩ := isFile_look_iff.mp hwalk
        obtain rfl := eq_further_of_walk hbefore hhere
        rw [Place.further_append]
        exact ⟨node, hnode, Entries.mem_of_lookup hlookup⟩
      · cases hwalk
    all_goals cases hwalk
  · rintro ⟨node, hnode, hmem⟩
    have habove := h.inside _ hmem
    have hshort : IsShort name := (h.isName _ hmem name (by simp [Place.further])).2
    dsimp only at habove
    rw [Place.further_append, Place.above_further] at habove
    rw [h.walk_further hbefore habove, advance, if_neg hup, if_pos hshort]
    rw [Place.further_append] at hmem
    refine isFile_look_iff.mpr ⟨?_, node, hnode, h.lookup_eq_some_iff.mpr hmem⟩
    simp [Place.further]

theorem follow_further (fs : Files) (p : Path) (names : List String) :
    fs.follow (p.further names) = names.foldl fs.advance (fs.follow p) := List.foldl_append

/-! ## Listing files -/

theorem below?_eq_some_iff {names : List String} : below? top here = some names ↔ here = top.further names := by
  unfold below?
  constructor
  · intro h
    split at h
    · next hbelow =>
      obtain ⟨hbase, hprefix⟩ := hbelow
      obtain ⟨more, hmore⟩ := List.isPrefixOf_iff_prefix.mp hprefix
      obtain rfl := Option.some.inj h
      rw [Place.further, ← hmore, List.drop_left, hmore, hbase]
    · cases h
  · rintro rfl
    have hprefix : top.names.isPrefixOf (top.further names).names = true :=
      List.isPrefixOf_iff_prefix.mpr ⟨names, rfl⟩
    rw [if_pos ⟨rfl, hprefix⟩, Place.further, List.drop_left]

theorem filesBelow_of_ne (hfind : ∀ d, fs.find p ≠ .directory d) : fs.filesBelow p = [] := by
  unfold filesBelow
  split
  · next hno => exact absurd hno (hfind _)
  · rfl

theorem isDirectory_iff : fs.isDirectory p = .ok true ↔ ∃ top, fs.find p = .directory top := by
  unfold isDirectory
  cases fs.find p with
  | directory top => exact ⟨fun _ => ⟨top, rfl⟩, fun _ => rfl⟩
  | _ => exact ⟨nofun, fun ⟨_, h⟩ => nomatch h⟩

theorem mem_filesBelow_of_find (hfind : fs.find p = .directory top) {name : String} :
    name ∈ fs.filesBelow p ↔
      ∃ names node, (top.further names, node) ∈ fs.nodes ∧ node ≠ .directory ∧
        fs.opens p names.dropLast = true ∧ name = "/".intercalate names := by
  rw [filesBelow, hfind, Text.mem_sortedSet, List.mem_filterMap]
  constructor
  · rintro ⟨⟨here, node⟩, hmem, hname⟩
    unfold listed? at hname
    cases hbelow : below? top here with
    | none =>
      rw [hbelow] at hname
      cases hname
    | some names =>
      simp only [hbelow] at hname
      split at hname
      · next hlisted =>
        exact ⟨names, node, below?_eq_some_iff.mp hbelow ▸ hmem, hlisted.1, hlisted.2,
          (Option.some.inj hname).symm⟩
      · cases hname
  · rintro ⟨names, node, hmem, hnode, hopens, rfl⟩
    refine ⟨_, hmem, ?_⟩
    rw [listed?, below?_eq_some_iff.mpr rfl]
    exact if_pos ⟨hnode, hopens⟩

/-- Files below a directory have names that lead to them. -/
theorem IsTree.names_of_mem (h : fs.IsTree) (hdir : fs.look top = .directory top) {names : List String}
    {node : Node} (hnode : node ≠ .directory) (hmem : (top.further names, node) ∈ fs.nodes) :
    names ≠ [] ∧ ∀ name ∈ names, IsName name := by
  refine ⟨?_, fun name hname => (h.isName _ hmem name (List.mem_append_right _ hname)).1⟩
  rintro rfl
  rw [Place.further_nil] at hmem
  -- the place itself is a directory
  rcases (look_eq_directory_iff.mp hdir).2 with hnil | hlookup
  · exact h.ne_nil _ hmem hnil
  · rw [h.lookup_eq_some_iff.mpr hmem] at hlookup
    exact hnode (Option.some.inj hlookup)

/-- The files listed below a directory are those that its names lead to when they are continued, each under the names
that continue them with slashes between, if the directory that it is in can be looked into. -/
theorem IsTree.mem_filesBelow_iff (h : fs.IsTree) {name : String} :
    name ∈ fs.filesBelow p ↔
      fs.isDirectory p = .ok true ∧ ∃ names, names ≠ [] ∧ (∀ part ∈ names, IsName part) ∧
        name = "/".intercalate names ∧ fs.opens p names.dropLast = true ∧
        (fs.follow (p.further names)).isFile = true := by
  by_cases hfind : ∃ top, fs.find p = .directory top
  · obtain ⟨top, hfind⟩ := hfind
    have hfollow : fs.follow p = .directory top := follow_of_find hfind nofun nofun
    rw [mem_filesBelow_of_find hfind]
    constructor
    · rintro ⟨names, node, hmem, hnode, hopens, rfl⟩
      obtain ⟨hne, hnames⟩ := h.names_of_mem (h.look_of_find hfind) hnode hmem
      refine ⟨isDirectory_iff.mpr ⟨top, hfind⟩, names, hne, hnames, rfl, hopens, ?_⟩
      rw [follow_further, hfollow]
      exact (h.isFile_walk_iff hne hnames).mpr ⟨node, hnode, hmem⟩
    · rintro ⟨-, names, hne, hnames, rfl, hopens, hfile⟩
      rw [follow_further, hfollow] at hfile
      obtain ⟨node, hnode, hmem⟩ := (h.isFile_walk_iff hne hnames).mp hfile
      exact ⟨names, node, hmem, hnode, hopens, rfl⟩
  · rw [filesBelow_of_ne fun d hd => hfind ⟨d, hd⟩]
    exact ⟨fun hmem => absurd hmem List.not_mem_nil, fun hdir => absurd (isDirectory_iff.mp hdir.1) hfind⟩

/-- Files are listed in strictly ascending order of their paths. -/
theorem pairwise_filesBelow (fs : Files) (p : Path) : (fs.filesBelow p).Pairwise (· < ·) := by
  unfold filesBelow
  split
  · exact Text.pairwise_lt_sortedSet _
  · exact List.Pairwise.nil

end Emission.Files
