import Emission.Escape.Strategy
import Emission.Text.Blank
import Emission.Text.Search
import Emission.Value.Access

/-!
# Filters and tests

What a template can do to a value behind a bar, and what it can ask about one behind `is`.
-/

namespace Emission.Template

open Escape (Renderers)

/-- What a template is compiled and rendered in. -/
structure Surroundings where
  renderers : Renderers := []
  /-- Names known to every template. -/
  globals : List (String × Value) := [("range", .rangeBuilder)]
  /-- Absent values print a placeholder. -/
  showAbsent : Bool := false

inductive Filter
  | fmt | joinCommas | upper | lower | length | join | first | last | default | indent | escape | replace
  deriving DecidableEq, Repr

/-- A parameter and its value if no argument is given for it. -/
abbrev Parameter := String × Option Value

/-- What a function takes: its name in messages, how many values it gets before the arguments of the
template, and the parameters for these. -/
structure Signature where
  function : String
  leading : Nat
  parameters : List Parameter

namespace Filter

def ofName? (name : String) : Option Filter :=
  match name with
  | "fmt" => some fmt
  | "join_commas" => some joinCommas
  | "upper" => some upper
  | "lower" => some lower
  | "length" | "count" => some length
  | "join" => some join
  | "first" => some first
  | "last" => some last
  | "default" | "d" => some default
  | "indent" => some indent
  | "e" | "escape" => some escape
  | "replace" => some replace
  | _ => none

def signature : Filter → Signature
  | fmt => ⟨"TemplateGroup.format_string", 2, [("mode", some .none)]⟩
  | joinCommas => ⟨"TemplateGroup._setup_custom_filters.<locals>.join_with_commas", 1, []⟩
  | upper => ⟨"do_upper", 1, []⟩
  | lower => ⟨"do_lower", 1, []⟩
  | length => ⟨"len", 1, []⟩
  | join => ⟨"sync_do_join", 2, [("d", some (.text "")), ("attribute", some .none)]⟩
  | first => ⟨"sync_do_first", 2, []⟩
  | last => ⟨"do_last", 2, []⟩
  | default =>
    ⟨"do_default", 1, [("default_value", some (.text "")), ("boolean", some (.bool false))]⟩
  | indent =>
    ⟨"do_indent", 1,
      [("width", some (.int 4)), ("first", some (.bool false)), ("blank", some (.bool false))]⟩
  | escape => ⟨"escape", 1, []⟩
  | replace => ⟨"do_replace", 2, [("old", none), ("new", none), ("count", some .none)]⟩

end Filter

/-! ## Arguments -/

namespace Signature

private def plural (n : Nat) (word : String) : String :=
  toString n ++ " " ++ word ++ (if n = 1 then "" else "s")

/-- Texts joined by commas and, before the last, "and". -/
def joinAnd : List String → String
  | [] => ""
  | [a] => a
  | [a, b] => a ++ " and " ++ b
  | a :: b :: rest => a ++ ", " ++ joinAndRest b rest
where
  joinAndRest (a : String) : List String → String
    | [] => "and " ++ a
    | b :: rest => a ++ ", " ++ joinAndRest b rest

/-- The message for more positional arguments than parameters. -/
def tooMany (s : Signature) (given : Nat) : String :=
  let most := s.leading + s.parameters.length
  let least := s.leading + (s.parameters.filter (·.2.isNone)).length
  s.function ++ "() takes " ++
    (if least = most then plural most "positional argument"
      else "from " ++ toString least ++ " to " ++ plural most "positional argument") ++
    " but " ++ toString (s.leading + given) ++ (if s.leading + given = 1 then " was" else " were") ++
    " given"

def missing (s : Signature) (names : List String) : String :=
  s.function ++ "() missing " ++ plural names.length "required positional argument" ++ ": " ++
    joinAnd (names.map fun n => "'" ++ n ++ "'")

/-- The value of each parameter, from positional and named arguments. -/
def bind (s : Signature) (args : List Value) (named : List (String × Value)) :
    Except Misuse (List Value) := do
  let fail {α : Type} (message : String) : Except Misuse α := .error (.wrongArguments message)
  match named.find? fun (n, _) => !(s.parameters.any (·.1 = n)) with
  | some (n, _) => fail (s.function ++ "() got an unexpected keyword argument '" ++ n ++ "'")
  | none => pure ()
  match (s.parameters.take args.length).find? fun p => named.any (·.1 = p.1) with
  | some (n, _) => fail (s.function ++ "() got multiple values for argument '" ++ n ++ "'")
  | none => pure ()
  if args.length > s.parameters.length then fail (s.tooMany args.length)
  let later := s.parameters.drop args.length
  let unfilled := later.filter fun p => p.2.isNone && !(named.any (·.1 = p.1))
  if !unfilled.isEmpty then fail (s.missing (unfilled.map (·.1)))
  return args ++ later.map fun p => ((named.lookup p.1).or p.2).getD .none

end Signature

/-! ## Running a filter -/

/-- A value through the renderer of a mode. A mode that is no text is the name of no format, and one that
counts as false is no mode. -/
def Surroundings.format (s : Surroundings) (v mode : Value) : Except Misuse String :=
  if !mode.truthy then s.renderers.format v ""
  else
    match mode.text? with
    | some m => s.renderers.format v m
    | none => do
      Value.checkKey mode
      v.shown

/-- The lines of a text after the first, or all of them, set in from the margin. -/
def indentText (s indention : String) (first blank : Bool) : String :=
  let lines := (Text.lines (s ++ "\n").toList).map String.ofList
  let body :=
    if blank then ("\n" ++ indention).intercalate lines
    else
      match lines with
      | [] => ""
      | [l] => l
      | l :: rest =>
        l ++ "\n" ++ "\n".intercalate (rest.map fun r => if r = "" then r else indention ++ r)
  if first then indention ++ body else body

/-- The parts of a name between its dots, numbers as integers. -/
def partPath : Value → List Value
  | .text s =>
    (s.splitOn ".").map fun p =>
      if !p.isEmpty && p.all Char.isDigit then .int (Number.digitsValue p.toList) else .text p
  | v => [v]

namespace Filter

/-- Indents a text; other values have no lines. -/
def runIndent (v width onFirst onBlank : Value) : Except Misuse Value := do
  let indention ← match width with
    | .text s => pure s
    | w =>
      match w.int? with
      | some n => pure (String.ofList (List.replicate n.toNat ' '))
      | none => throw (Misuse.notRepeatable w.kind)
  match v with
  | .text s => return .text (indentText s indention onFirst.truthy onBlank.truthy)
  | .markup s => return .markup (indentText s indention onFirst.truthy onBlank.truthy)
  | .list _ => throw (.noAttribute "list" "splitlines")
  | .tuple _ => throw (.notConcatenable "tuple" "str")
  | v =>
    if v.isAbsent then throw v.missed else throw (.badOperands "+=" v.kind "str")

def runReplace (v old new count : Value) : Except Misuse Value := do
  let text ← v.shown
  let old ← old.shown
  let new ← new.shown
  let limit ← match count with
    | .none => pure none
    | c =>
      match c.int? with
      | some n => pure (if n < 0 then none else some n.toNat)
      | none => throw (Misuse.integerWanted c.kind)
  return .text (Text.replace old new limit text)

/-- The members of a value, or a part of each of them. -/
def pickMembers (shown : Bool) (v part : Value) : Except Misuse (List Value) := do
  let vs ← v.members
  if part.isNone then return vs
  else vs.mapM fun m => (partPath part).foldlM (Value.itemOf shown) m

/-- The last member of a value that can be gone through backwards. -/
def runLast (shown : Bool) (v : Value) : Except Misuse Value :=
  match v.members? with
  | none => .error (.notReversible v.kind)
  | some vs => .ok (vs.getLast?.getD (.unfounded shown "No last item, sequence was empty."))

/-- Runs a filter on a value and the values of its parameters. -/
def run (s : Surroundings) (f : Filter) (v : Value) (args : List Value) : Except Misuse Value :=
  match f, args with
  | fmt, [mode] => (s.format v mode).map .text
  | joinCommas, _ => do return .text (Value.commaSeparated (← (← v.members).mapM Value.shown))
  | upper, _ =>
    match v with
    | .markup t => .ok (.markup (Text.upper t))
    | v => v.shown.map fun text => .text (Text.upper text)
  | lower, _ =>
    match v with
    | .markup t => .ok (.markup (Text.lower t))
    | v => v.shown.map fun text => .text (Text.lower text)
  | length, _ =>
    match v.length? with
    | some n => .ok (.int n)
    | none => .error (.noLength v.kind)
  | join, [d, part] => do
    let vs ← pickMembers s.showAbsent v part
    return .text ((← d.shown).intercalate (← vs.mapM Value.shown))
  | first, _ =>
    v.members.map fun vs =>
      vs.head?.getD (.unfounded s.showAbsent "No first item, sequence was empty.")
  | last, _ => runLast s.showAbsent v
  | default, [d, boolean] =>
    .ok (if v.isAbsent || boolean.truthy && !v.truthy then d else v)
  | indent, [width, onFirst, onBlank] => runIndent v width onFirst onBlank
  | escape, _ =>
    match v with
    | .markup t => .ok (.markup t)
    | v => v.shown.map fun text => .markup (Value.escapeMarkup text)
  | replace, [old, new, count] => runReplace v old new count
  | _, _ => .ok v

/-- Runs a filter on a value and the arguments of the template. -/
def apply (s : Surroundings) (f : Filter) (v : Value) (args : List Value)
    (named : List (String × Value)) : Except Misuse Value := do
  f.run s v (← f.signature.bind args named)

end Filter

/-! ## Tests -/

inductive Test
  | none | defined | undefined
  deriving DecidableEq, Repr

namespace Test

def ofName? (name : String) : Option Test :=
  match name with
  | "none" => some none
  | "defined" => some defined
  | "undefined" => some undefined
  | _ => Option.none

def signature : Test → Signature
  | none => ⟨"test_none", 1, []⟩
  | defined => ⟨"test_defined", 1, []⟩
  | undefined => ⟨"test_undefined", 1, []⟩

def holds (v : Value) : Test → Bool
  | none => v.isNone
  | defined => !v.isAbsent
  | undefined => v.isAbsent

def apply (t : Test) (v : Value) (args : List Value) (named : List (String × Value)) :
    Except Misuse Value := do
  let _ ← t.signature.bind args named
  return .bool (t.holds v)

end Test

/-! ## Calls -/

/-- The range of one, two or three integers. -/
def buildRange (args : List Value) (named : List (String × Value)) : Except Misuse Value := do
  if !named.isEmpty then throw (.wrongArguments "range() takes no keyword arguments")
  let whole (v : Value) : Except Misuse Int :=
    match v.int? with
    | some n => .ok n
    | none => .error (.integerWanted v.kind)
  match args with
  | [] => throw (.wrongArguments "range expected at least 1 argument, got 0")
  | [stop] => return .range 0 (← whole stop) 1
  | [start, stop] => return .range (← whole start) (← whole stop) 1
  | [start, stop, step] => do
    let a ← whole start
    let b ← whole stop
    let c ← whole step
    if c = 0 then throw .zeroRangeStep
    return .range a b c
  | args =>
    throw (.wrongArguments
      ("range expected at most 3 arguments, got " ++ toString args.length))

/-- Calls a value. -/
def callValue (f : Value) (args : List Value) (named : List (String × Value)) :
    Except Misuse Value :=
  match f with
  | .rangeBuilder => buildRange args named
  | f => if f.isAbsent then .error f.missed else .error (.notCallable f.kind)

end Emission.Template
