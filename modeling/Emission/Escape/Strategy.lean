import Emission.Escape.Format
import Emission.Escape.Literal
import Emission.Text.Search

/-!
# Escape strategies

What a target does to texts: its own renderers by mode, its code-point style and its short escapes.
-/

namespace Emission.Escape

/-- A named text transformation. -/
abbrev Renderer := String → String

/-- Renderers by mode, each mode once. -/
abbrev Renderers := List (String × Renderer)

def Renderers.modes (rs : Renderers) : List String := rs.map (·.1)

/-- A text under a mode that has a renderer goes through it; anything else is formatted the built-in way, if it can
be written out. -/
def Renderers.format (rs : Renderers) (v : Value) (mode : String) : Except Misuse String :=
  match List.lookup mode rs, v.text? with
  | some f, some s => .ok (f s)
  | _, _ => formatShown v mode

/-- What becomes of a text, which can always be written out. -/
def Renderers.formatText (rs : Renderers) (s mode : String) : String :=
  match List.lookup mode rs with
  | some f => f s
  | none => formatValue (.text s) mode

@[simp] theorem Renderers.format_text (rs : Renderers) (s mode : String) :
    rs.format (.text s) mode = .ok (rs.formatText s mode) := by
  unfold Renderers.format Renderers.formatText
  cases List.lookup mode rs <;> rfl

/-- What can be written out can be formatted in every mode. -/
theorem Renderers.exists_format {v : Value} {text : String} (h : v.shown = .ok text) (rs : Renderers) (mode : String) :
    ∃ out, rs.format v mode = .ok out := by
  unfold Renderers.format
  split
  · exact ⟨_, rfl⟩
  · exact ⟨_, by rw [formatShown, h]; rfl⟩

/-- A target's escaping. -/
structure Strategy where
  renderers : Renderers
  style : CodePointStyle
  short : ShortEscapes

namespace Strategy

/-- The strategy with the standard short escapes unless others are given. -/
def make (renderers : Renderers) (style : CodePointStyle) (short : Option ShortEscapes) : Strategy :=
  ⟨renderers, style, short.getD .standard⟩

/-- The modes in ascending order. -/
def modes (s : Strategy) : List String := Text.sorted s.renderers.modes

def render (s : Strategy) (v : Value) (mode : String) : Except Misuse String := s.renderers.format v mode

def codePoint (s : Strategy) (v : Value) : Except Fault String := escapeValue s.style v

def literal (s : Strategy) (quote text : String) : String := escapeString s.style s.short quote text

end Strategy

end Emission.Escape
