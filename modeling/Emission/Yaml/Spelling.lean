import Emission.Text.Pattern

/-!
# Spellings of YAML values

How truth values, numbers and dates are spelled without quotes.
-/

namespace Emission.Yaml.Spelling

open Text (Pattern)
open Text.Pattern (one oneOf digit sequence anyOf optional repeated exactly words)

def truthWords : Pattern :=
  words ["yes", "Yes", "YES", "no", "No", "NO", "true", "True", "TRUE", "false", "False", "FALSE",
    "on", "On", "ON", "off", "Off", "OFF"]

def nothingWords : Pattern := words ["~", "null", "Null", "NULL", ""]

def sign : Pattern := optional (oneOf "+-")

def nonzero : Pattern := oneOf "123456789"

/-- Digits among which underscores may stand. -/
def loose : Pattern := repeated (oneOf "0123456789_")

/-- Digit groups of a number to the base sixty. -/
def sixties : Pattern := .some (sequence [one ':', optional (oneOf "012345"), digit])

def integerForm : Pattern :=
  sequence [sign, anyOf
    [sequence [exactly "0b", .some (oneOf "01_")],
     sequence [one '0', .some (oneOf "01234567_")],
     one '0',
     sequence [nonzero, loose],
     sequence [exactly "0x", .some (oneOf "0123456789abcdefABCDEF_")],
     sequence [nonzero, loose, sixties]]]

/-- An exponent, which must have a sign. -/
def exponent : Pattern := optional (sequence [oneOf "eE", oneOf "+-", .some digit])

def floatForm : Pattern :=
  anyOf
    [sequence [sign, digit, loose, one '.', loose, exponent],
     sequence [one '.', digit, loose, exponent],
     sequence [sign, digit, loose, sixties, one '.', loose],
     sequence [sign, words [".inf", ".Inf", ".INF"]],
     words [".nan", ".NaN", ".NAN"]]

def upToTwo : Pattern := sequence [digit, optional digit]

def twoDigits : Pattern := sequence [digit, digit]

def yearForm : Pattern := sequence [digit, digit, digit, digit]

/-- A day, or a time of a day in some zone. -/
def dateForm : Pattern :=
  anyOf
    [sequence [yearForm, one '-', twoDigits, one '-', twoDigits],
     sequence [yearForm, one '-', upToTwo, one '-', upToTwo,
       anyOf [oneOf "Tt", .some (oneOf " \t")],
       upToTwo, one ':', twoDigits, one ':', twoDigits,
       optional (sequence [one '.', repeated digit]),
       optional (sequence [repeated (oneOf " \t"),
         anyOf [one 'Z', sequence [oneOf "+-", upToTwo, optional (sequence [one ':', twoDigits])]]])]]

end Emission.Yaml.Spelling
