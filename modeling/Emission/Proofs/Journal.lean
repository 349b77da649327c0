import Emission.Journal
import Emission.Proofs.Files

/-!
# What a record changes

A record is added to the console and to the files of the handlers that take it. Main statement: `sent_record`, it
changes no other file, and no path leads elsewhere after it.
-/

namespace Emission.Journal

open Files (Path Content)

variable {j : Journal} {fs : Files} {rank : Int} {p : Path}

/-- A handler takes records of this rank and writes them to the file that a path leads to. -/
def Handler.Takes (h : Handler) (fs : Files) (rank : Int) (p : Path) : Prop :=
  h.level ≤ rank ∧ ∃ path, h.sink = .file path .attached ∧ fs.spot? path = fs.spot? p

/-- Records that matter this much go to the file that a path leads to. -/
def WritesTo (j : Journal) (fs : Files) (s : Severity) (p : Path) : Prop :=
  j.threshold ≤ s.rank ∧ ∃ h ∈ j.handlers, h.Takes fs s.rank p

/-- Files after something was written to some of them only. -/
structure Sent (takes : Path → Prop) (fs fs' : Files) : Prop where
  spot_eq : ∀ q, fs'.spot? q = fs.spot? q
  content_eq : ∀ q, ¬takes q → fs'.content? q = fs.content? q

namespace Sent

variable {takes takes' : Path → Prop} {fs₁ fs₂ fs₃ : Files}

theorem refl (takes : Path → Prop) (fs : Files) : Sent takes fs fs := ⟨fun _ => rfl, fun _ _ => rfl⟩

theorem trans (h : Sent takes fs₁ fs₂) (h' : Sent takes fs₂ fs₃) : Sent takes fs₁ fs₃ :=
  ⟨fun q => (h'.spot_eq q).trans (h.spot_eq q), fun q hq => (h'.content_eq q hq).trans (h.content_eq q hq)⟩

theorem mono (h : Sent takes fs₁ fs₂) (hle : ∀ q, takes q → takes' q) : Sent takes' fs₁ fs₂ :=
  ⟨h.spot_eq, fun q hq => h.content_eq q fun hq' => hq (hle q hq')⟩

end Sent

theorem sent_take (rank : Int) (text : String) (h : Handler) (fs : Files) :
    Sent (h.Takes fs rank) fs (h.take rank text fs).2.2 := by
  unfold Handler.take
  split
  · exact .refl _ fs
  · next hlevel =>
    split
    · exact .refl _ fs
    · exact .refl _ fs
    · exact .refl _ fs
    · next path hsink =>
      split
      · next fs' hwrite =>
        cases hspot : fs.spot? path with
        | none =>
          obtain rfl := Files.eq_of_write hwrite hspot
          exact .refl _ _
        | some here =>
          have hwritten := Files.written_of_write hwrite hspot
          refine ⟨hwritten.spot_eq, fun q hq => hwritten.content_of_ne q fun heq => hq ?_⟩
          exact ⟨Int.not_lt.mp hlevel, path, hsink, heq.symm⟩
      · exact .refl _ fs

/-- A handler takes what it took as long as paths lead where they led. -/
theorem takes_congr {fs' : Files} (hspot : ∀ q, fs'.spot? q = fs.spot? q) (h : Handler) (rank : Int)
    (p : Path) : h.Takes fs' rank p ↔ h.Takes fs rank p := by
  unfold Handler.Takes
  simp only [hspot]

/-- Records go where they went as long as paths lead where they led. -/
theorem writesTo_congr {fs' : Files} (hspot : ∀ q, fs'.spot? q = fs.spot? q) (j : Journal)
    (s : Severity) (p : Path) : j.WritesTo fs' s p ↔ j.WritesTo fs s p := by
  unfold WritesTo
  simp only [takes_congr hspot]

theorem takeAll_cons (rank : Int) (text : String) (h : Handler) (rest : List Handler) (fs : Files) :
    takeAll rank text (h :: rest) fs =
      let first := h.take rank text fs
      let others := takeAll rank text rest first.2.2
      (first.1 :: others.1, first.2.1 ++ others.2.1, others.2.2) := rfl

theorem sent_takeAll (rank : Int) (text : String) (hs : List Handler) (fs : Files) :
    Sent (fun q => ∃ h ∈ hs, h.Takes fs rank q) fs (takeAll rank text hs fs).2.2 := by
  induction hs generalizing fs with
  | nil => exact .refl _ fs
  | cons h rest ih =>
    have hfirst := sent_take rank text h fs
    have hrest := ih (h.take rank text fs).2.2
    refine (hfirst.mono fun q hq => ⟨h, List.mem_cons_self, hq⟩).trans (hrest.mono fun q hq => ?_)
    obtain ⟨h', hmem, htakes⟩ := hq
    exact ⟨h', List.mem_cons_of_mem h hmem, (takes_congr hfirst.spot_eq h' rank q).mp htakes⟩

/-- A record changes the files that it goes to, and no path leads elsewhere after it. -/
theorem sent_record (j : Journal) (fs : Files) (component : String) (s : Severity) (message : String) :
    Sent (j.WritesTo fs s) fs (j.record fs component s message).2 := by
  unfold record
  split
  · exact .refl _ fs
  · next hrank =>
    split
    · exact .refl _ fs
    · exact (sent_takeAll s.rank _ j.handlers fs).mono fun q hq => ⟨Int.not_lt.mp hrank, hq⟩

end Emission.Journal
