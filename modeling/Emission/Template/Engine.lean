import Emission.Template.Program.Render

/-!
# Template languages

What a group needs of the language that its templates are written in: texts are read, compiled and printed. The group
hands over its surroundings, and the language has it format values. `Engine.standard` is the language of this library.
-/

namespace Emission.Template

/-- A template language. -/
structure Engine where
  /-- Compiled templates. -/
  Code : Type
  /-- Reads a text without compiling it. -/
  read : Layout → String → Except Fault Unit
  /-- Compiles a text under the name of a template, or under none. -/
  compile : Surroundings → Layout → Option String → String → Except Fault Code
  /-- What a compiled template prints. -/
  run : Code → Scene → Except Fault String

/-- A text compiled under a name, or under none, and printed. -/
def Engine.render (E : Engine) (s : Surroundings) (l : Layout) (template : Option String) (source : String)
    (values : List (String × Value)) : Except Fault String := do
  let code ← E.compile s l template source
  E.run code { surroundings := s, values, template }

/-- What is wrong with a text as a template, as far as reading it tells. An error that is none of templates is passed
on. -/
def Engine.validate (E : Engine) (l : Layout) (source : String) : Except Fault (Option Fault) :=
  match E.read l source with
  | .ok () => .ok none
  | .error e => if e.isTemplateError then .ok (some e) else .error e

/-- The language of the templates that come with this library. -/
@[reducible]
def Engine.standard : Engine where
  Code := Program
  read l source := ((parse l source).mapError .malformed).map fun _ => ()
  compile s l _ source := Template.compile s l source
  run p scene := p.render scene

/-- What the filter `fmt` is asked: a value to format, and the arguments behind it. -/
structure Question where
  value : Value
  arguments : List Value
  named : List (String × Value)

/-- What the filter `fmt` answers with the renderers there are. -/
def Surroundings.answer (s : Surroundings) (q : Question) : Except Misuse Value :=
  Filter.fmt.apply s q.value q.arguments q.named

end Emission.Template
