import Emission.Escape.Strategy
import Emission.Segment
import Emission.Text.Case
import Emission.Vocabulary

/-!
# Targets

An output language: its name and version, the words it reserves, how it escapes texts and what it can
take.
-/

namespace Emission

namespace Target

/-! ## Identity

A target is known by its name and version, and found under its name in lower case. -/

/-- The name and version of a target; neither is empty. -/
structure Identity where
  name : String
  version : String
  name_ne : name ≠ ""
  version_ne : version ≠ ""

namespace Identity

def make (name version : String) : Except Fault Identity :=
  if hn : name = "" then .error .emptyTargetName
  else if hv : version = "" then .error .emptyTargetVersion
  else .ok ⟨name, version, hn, hv⟩

/-- The key under which catalogs and caches keep a target of this name. -/
def keyOf (name : String) : String := Text.lower name

def key (i : Identity) : String := keyOf i.name

/-- Name and version. -/
def text (i : Identity) : String := i.name ++ " " ++ i.version

end Identity

/-! ## Symbols of a grammar -/

/-- A symbol of a grammar is a text by itself or something that carries its text. -/
inductive Symbol
  | plain (v : Value)
  /-- Something with a text, which may be any value. -/
  | carrier (text : Value)
  deriving Inhabited, Repr

/-- The text of a symbol. -/
def Symbol.text : Symbol → Except Fault Value
  | plain (.text s) => .ok (.text s)
  | plain v => .error (.misuse (.noAttribute v.kind "text"))
  | carrier text => .ok text

end Target

/-! ## Targets -/

/-- A target language. -/
structure Target where
  identity : Target.Identity
  vocabulary : Vocabulary
  strategy : Escape.Strategy
  limits : Target.Limits

namespace Target

def name (t : Target) : String := t.identity.name

def version (t : Target) : String := t.identity.version

/-- What a target shows of itself. -/
def text (t : Target) : String := "TargetAdapter(" ++ t.identity.text ++ ")"

/-! ## Reserved words -/

/-- Is a value a reserved word? -/
def reserves (t : Target) (v : Value) : Except Fault Bool :=
  match v with
  | .text s => .ok (t.vocabulary.words.contains s)
  | v => (Value.checkKey v).mapError .misuse |>.map fun _ => false

/-- The text of a symbol, if that text is a reserved word. -/
def collision? (t : Target) (symbol : Symbol) : Except Fault (Option Value) := do
  let s ← symbol.text
  return if ← t.reserves s then some s else none

/-- An identifier, with an underscore behind it if it is a reserved word. -/
def rename (t : Target) (identifier : String) : String :=
  if t.vocabulary.words.contains identifier then identifier ++ "_" else identifier

/-! ## Description -/

/-- What is told about a target. -/
structure Description where
  name : String
  version : String
  overloading : Bool
  segmentSize : Nat
  reservedWords : Nat
  modes : List String
  deriving DecidableEq, Repr

def describe (t : Target) : Description where
  name := t.name
  version := t.version
  overloading := t.limits.overloading
  segmentSize := t.limits.segmentSize
  reservedWords := t.vocabulary.words.length
  modes := t.strategy.modes

end Target

end Emission
