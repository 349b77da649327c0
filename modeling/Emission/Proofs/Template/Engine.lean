import Emission.Proofs.Files
import Emission.Proofs.Template.Asking
import Emission.Proofs.Template.Compiling
import Emission.Proofs.Template.Nameless

/-!
# What is known of a template language

A group relies on its language for two things. Compiling a text and printing it depend on few things around the text:
`Engine.Local`. And a text is refused when it is compiled, never later, and always if it cannot be read:
`Engine.Staged`. Main statements: `standard_local` and `standard_staged`, the language of this library keeps to both.
-/

namespace Emission.Template

namespace Engine

/-- What compiling and printing a text depend on. `asks` are the questions that a text puts to the filter `fmt` when
it is compiled, as it does where a value and its arguments are constants; `tells` are the texts that tell the name of
their template. -/
structure Local (E : Engine) (asks : Surroundings → Layout → String → Question → Prop)
    (tells : Surroundings → Layout → String → Prop) : Prop where
  /-- A text is compiled alike in surroundings that show absent values alike and answer alike what it asks. -/
  compile_congr {s s' : Surroundings} {l : Layout} {source : String} (hshow : s.showAbsent = s'.showAbsent)
    (h : ∀ q, asks s l source q → s.answer q = s'.answer q) (template : Option String) :
    E.compile s l template source = E.compile s' l template source
  /-- A text that does not tell the name of its template comes to the same under every name. -/
  render_congr {s : Surroundings} {l : Layout} {source : String} (h : ¬tells s l source)
    (template template' : Option String) (values : List (String × Value)) :
    E.render s l template source values = E.render s l template' source values

/-- When a text is refused. `borrows` are the texts that need other templates when they are rendered. -/
structure Staged (E : Engine) (borrows : Layout → String → Prop) : Prop where
  /-- Compiling reads the text first, and tells the same error of templates as reading. -/
  compile_of_read {l : Layout} {source : String} {e : Fault} (h : E.read l source = .error e)
    (he : e.isTemplateError = true) (s : Surroundings) (template : Option String) :
    E.compile s l template source = .error e
  /-- What cannot be read for another reason is not compiled for another reason either. -/
  compile_of_read_other {l : Layout} {source : String} {e : Fault} (h : E.read l source = .error e)
    (he : e.isTemplateError = false) (s : Surroundings) (template : Option String) :
    ∃ e', E.compile s l template source = .error e' ∧ e'.isTemplateError = false
  /-- The newlines of a text count as line feeds. -/
  compile_unifyNewlines (s : Surroundings) (l : Layout) (template : Option String) (source : String) :
    E.compile s l template (.ofList (Text.unifyNewlines source.toList)) = E.compile s l template source
  /-- Whether a text compiles does not depend on the name of the template. -/
  compile_ok {s : Surroundings} {l : Layout} {template : Option String} {source : String} {code : E.Code}
    (h : E.compile s l template source = .ok code) (template' : Option String) :
    ∃ code', E.compile s l template' source = .ok code'
  /-- No error of templates names the template. -/
  compile_error {s : Surroundings} {l : Layout} {template : Option String} {source : String} {e : Fault}
    (h : E.compile s l template source = .error e) (he : e.isTemplateError = true) (template' : Option String) :
    E.compile s l template' source = .error e
  /-- The errors of templates that compiling ends in refuse the text. -/
  refuses {s : Surroundings} {l : Layout} {template : Option String} {source : String} {e : Fault}
    (h : E.compile s l template source = .error e) (he : e.isTemplateError = true) : e.refuses = true
  /-- No template language fails like the construction of a group. -/
  ne_groupFailed {s : Surroundings} {l : Layout} {template : Option String} {source : String} {e : Fault}
    (h : E.compile s l template source = .error e) (target reason : String) (name : Option String) :
    e ≠ .groupFailed target reason name
  /-- A compiled text is not refused any more, unless another one is needed that is. -/
  spared {s : Surroundings} {l : Layout} {template : Option String} {source : String} {code : E.Code}
    (hborrows : ¬borrows l source) (h : E.compile s l template source = .ok code) (sc : Scene) :
    Spared (E.run code sc)

/-- A text that does not compile under one name does not under any other. Only another error than one of templates may
name the template. -/
theorem Staged.exists_compile_error {E : Engine} {borrows : Layout → String → Prop} (hE : E.Staged borrows)
    {s : Surroundings} {l : Layout} {template : Option String} {source : String} {e : Fault}
    (h : E.compile s l template source = .error e) (template' : Option String) :
    ∃ e', E.compile s l template' source = .error e' ∧ e'.isTemplateError = e.isTemplateError ∧
      (e.isTemplateError = true → e' = e) := by
  cases he : e.isTemplateError with
  | true => exact ⟨e, hE.compile_error h he template', he, fun _ => rfl⟩
  | false =>
    cases h' : E.compile s l template' source with
    | ok code =>
      obtain ⟨code', hcode⟩ := hE.compile_ok h' template
      rw [h] at hcode
      cases hcode
    | error e' =>
      refine ⟨e', rfl, Bool.eq_false_iff.mpr fun he' => ?_, nofun⟩
      -- an error of templates would be the same under the first name
      obtain rfl := Except.error.inj (h.symm.trans (hE.compile_error h' he' template))
      rw [he] at he'
      cases he'

end Engine

/-! ## The language of this library -/

section Standard

variable {l : Layout} {source : String}

/-- The text is compiled to a program that tells the name of its template. -/
def Tells (s : Surroundings) (l : Layout) (source : String) : Prop :=
  ∃ p, compile s l source = .ok p ∧ ¬BodyNameless p.body

theorem standard_local : Engine.standard.Local Asks Tells where
  compile_congr hshow h _ := compile_congr hshow h
  render_congr h template template' _ := by
    refine bind_congr_ok fun p hp => ?_
    have hnameless : BodyNameless p.body := Classical.byContradiction fun hbody => h ⟨p, hp, hbody⟩
    exact render_of_nameless template template' hnameless

theorem read_standard_eq_error_iff {e : Fault} :
    Engine.standard.read l source = .error e ↔ ∃ fault, parse l source = .error fault ∧ e = .malformed fault := by
  show ((parse l source).mapError Fault.malformed).map _ = _ ↔ _
  cases parse l source with
  | error fault => simp [Except.map, eq_comm]
  | ok tree => simp [Except.map]

theorem read_of_parse_ok {tree : List Statement} (h : parse l source = .ok tree) :
    Engine.standard.read l source = .ok () := by
  show ((parse l source).mapError Fault.malformed).map _ = _
  rw [h]
  rfl

theorem compile_of_parse_error {fault : ParseFault} (h : parse l source = .error fault) (s : Surroundings) :
    compile s l source = .error (.malformed fault) := by
  rw [compile, h]
  rfl

/-- Reading unifies the newlines anyway. -/
theorem parse_unifyNewlines :
    parse l (.ofList (Text.unifyNewlines source.toList)) = parse l source := by
  have hsource : l.source (.ofList (Text.unifyNewlines source.toList)) = l.source source := by
    rw [Layout.source, Layout.source, String.toList_ofList, Text.unifyNewlines_unifyNewlines]
  rw [parse, parse, scan, scan, hsource]

/-- No template of this library needs another one. -/
theorem standard_staged : Engine.standard.Staged fun _ _ => False where
  compile_of_read h _ s template := by
    obtain ⟨fault, hparse, rfl⟩ := read_standard_eq_error_iff.mp h
    exact compile_of_parse_error hparse s
  compile_of_read_other h he s template := by
    obtain ⟨fault, hparse, rfl⟩ := read_standard_eq_error_iff.mp h
    cases he
  compile_unifyNewlines s l template source := by
    show compile s l _ = compile s l source
    rw [compile, compile, parse_unifyNewlines]
  compile_ok h _ := ⟨_, h⟩
  compile_error h _ _ := h
  refuses h he := by
    obtain hrefuses | ⟨m, rfl, rfl | ⟨kind, rfl⟩⟩ := fault_of_compile h
    · exact hrefuses
    · cases he
    · cases he
  ne_groupFailed h _ _ _ := by
    rintro rfl
    obtain hrefuses | ⟨m, hm, -⟩ := fault_of_compile h
    · cases hrefuses
    · cases hm
  spared _ _ sc := spared_render _ sc

end Standard

end Emission.Template
