import Emission.Target

/-!
# The PHP target
-/

namespace Emission.Target.Php

/-- The keywords of the language, in ascending order. -/
def keywords : List String :=
  ["abstract", "array", "bool", "break", "case", "catch", "class", "const", "continue",
   "default", "do", "else", "enum", "extends", "false", "finally", "float", "for", "foreach",
   "goto", "if", "implements", "instanceof", "int", "interface", "namespace", "new", "null",
   "object", "parent", "private", "protected", "public", "return", "static", "switch", "this",
   "throw", "true", "try", "use", "void", "while"]

/-- Names that generated recognizers use for their own helpers. -/
def internal : List String := ["rule", "parserRule"]

/-- A dollar sign is escaped, since a name behind it would be replaced by the value of a variable. -/
def shortEscapes : Escape.ShortEscapes := Escape.ShortEscapes.standard ++ [("$", "\\$")]

/-- The mode in which the texts of a grammar are escaped for the reader of unicode escapes. -/
def escapeMode : String := "java-escape"

def identity : Identity := ⟨"Php", "4.7.2", by decide, by decide⟩

/-- The longest literal has 65535 bytes, and three bytes encode any code unit. -/
def limits : Limits := ⟨false, 65535, 3, by decide, by decide⟩

/-- The PHP target. -/
def target : Target where
  identity := identity
  vocabulary := .ofWords keywords internal
  strategy := .make [(escapeMode, Escape.reescape)] .units (some shortEscapes)
  limits := limits

end Emission.Target.Php
