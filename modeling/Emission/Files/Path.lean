/-!
# Paths

Where a file is, as names from a starting point. A path is read and printed in a plain form, without
empty names and single dots; two dots are kept, since only the files tell where they lead.
-/

namespace Emission.Files

/-- Where a path starts. -/
inductive Base
  /-- The directory one works in. -/
  | working
  /-- The directory one works in, written out in full. -/
  | workingFull
  /-- The templates that come with the library. -/
  | shipped
  /-- The root of all files. -/
  | root
  /-- The root of all files, written with exactly two slashes, which are kept. -/
  | doubleRoot
  deriving DecidableEq, Repr, Inhabited

/-- How messages name a starting point. -/
def Base.text : Base → String
  | working | workingFull => "<tmp>"
  | shipped => "<templates>"
  | root => ""
  | doubleRoot => "/"

/-- A path. No part is empty, a single dot or has a slash in it. -/
structure Path where
  base : Base
  parts : List String
  deriving DecidableEq, Repr, Inhabited

/-- The pieces of a text between its slashes. -/
def slashPieces : List Char → List (List Char)
  | [] => [[]]
  | c :: rest =>
    match slashPieces rest with
    | [] => [[c]]
    | p :: ps => if c = '/' then [] :: p :: ps else (c :: p) :: ps

/-- The names in a path, without empty ones and single dots. -/
def pathParts (s : String) : List String :=
  ((slashPieces s.toList).filter fun p => p ≠ [] ∧ p ≠ ['.']).map String.ofList

/-- The path starts at the root. -/
def isAbsolute (s : String) : Bool := s.toList.head? = some '/'

/-- Where a written path starts: its leading slashes say so, and three are as good as one. -/
def startingPoint : List Char → Base
  | '/' :: '/' :: '/' :: _ => .root
  | '/' :: '/' :: _ => .doubleRoot
  | '/' :: _ => .root
  | _ => .working

namespace Path

/-- A path inside the working directory, or from the root. -/
def ofText (s : String) : Path := ⟨startingPoint s.toList, pathParts s⟩

/-- A path continued by another one; one that starts at the root replaces it. -/
def append (p : Path) (s : String) : Path :=
  if isAbsolute s then .ofText s else ⟨p.base, p.parts ++ pathParts s⟩

/-- The form in which a path is shown. -/
def text (p : Path) : String :=
  match p.base, p.parts with
  | .working, [] => "."
  | .working, parts => "/".intercalate parts
  | .root, parts | .doubleRoot, parts => p.base.text ++ "/" ++ "/".intercalate parts
  | base, parts => "/".intercalate (base.text :: parts)

/-- A path with its starting point written out. -/
def absolute (p : Path) : Path :=
  match p.base with
  | .working => { p with base := .workingFull }
  | _ => p

/-- Two dots cancelled against the name before them, if there is one. -/
def dropDots (parts : List String) : List String :=
  (parts.foldl (fun done part =>
    match done, part with
    | _ :: rest, ".." => rest
    | [], ".." => []
    | done, part => part :: done) []).reverse

/-- The path without two dots, as if every name were a directory. -/
def flat (p : Path) : Path := { p with parts := dropDots p.parts }

/-- The end of the last name from its last dot on; a dot at either end of the name does not count. -/
def suffix (p : Path) : String :=
  let name := ((p.parts.getLast?).getD "").toList
  let after := (name.reverse.takeWhile (· ≠ '.')).reverse
  let before := name.length - after.length - 1
  if after.length < name.length ∧ 0 < before ∧ after ≠ [] then .ofList ('.' :: after) else ""

end Path

/-- A directory and a name in it, joined as texts. -/
def joinText (dir name : String) : String :=
  if isAbsolute name then name
  else if dir = "" ∨ dir.toList.getLast? = some '/' then dir ++ name
  else dir ++ "/" ++ name

end Emission.Files
