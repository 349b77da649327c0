import Emission.Fault
import Emission.Files.Path
import Emission.Text.Blank
import Emission.Text.Search

/-!
# Files

A tree of directories and files. A path is followed name by name; what it leads to decides which
operations succeed and with which fault the others fail. No name may be longer than `nameLimit`, and the text
of a path no longer than there is room for.
-/

namespace Emission

open Files (Base Path)

namespace Files

/-- What a file holds. -/
inductive Content
  | text (s : String)
  /-- Bytes that need not be the encoding of a text. -/
  | bytes (bs : List UInt8)
  deriving DecidableEq, Repr

namespace Content

/-- The text that is read from a file; every newline is read as a line feed. -/
def read : Content → Except Text.Utf8Fault String
  | text s => .ok (.ofList (Text.unifyNewlines s.toList))
  | bytes bs => (Text.decodeUtf8 bs).map fun s => .ofList (Text.unifyNewlines s.toList)

def append (more : String) : Content → Content
  | text s => text (s ++ more)
  | bytes bs => bytes (bs ++ Text.encodeUtf8 more.toList)

def isEmpty : Content → Bool
  | text s => s = ""
  | bytes bs => bs = []

end Content

/-- What is at a place. -/
inductive Node
  | directory
  | file (c : Content)
  /-- A device that is always full: it takes nothing, and reading it does not end. -/
  | full
  deriving DecidableEq, Repr

/-- A place among the files: the names that lead to it from the top of the tree it is in. -/
structure Place where
  base : Base
  names : List String
  deriving DecidableEq, Repr

/-- The place where paths of a base start. -/
def Base.place : Base → Place
  | .shipped => ⟨.shipped, ["codegen", "templates"]⟩
  | .doubleRoot => ⟨.root, []⟩
  | .workingFull => ⟨.working, []⟩
  | base => ⟨base, []⟩

end Files

open Files (Content Node Place)

/-- The directories and files there are; a directory holds nothing. The tops of the trees are always
there. -/
structure Files where
  nodes : List (Place × Node) := []
  /-- How many bytes the text of a path from a starting point may have. -/
  room : Base → Nat := fun _ => 4095

namespace Files

instance : Inhabited Files := ⟨{}⟩

/-- How many bytes a name may have. -/
def nameLimit : Nat := 255

/-- What a path leads to. -/
inductive Found
  | directory (here : Place)
  | file (here : Place) (content : Content)
  /-- A device that is always full. -/
  | full (here : Place)
  /-- Nothing, in a directory that is there. -/
  | vacant (here : Place)
  /-- Nothing, and the directory is not there either. -/
  | astray
  /-- A name behind a file. -/
  | blocked
  /-- A name that is too long for a directory, or too long a path. -/
  | overlong
  /-- A path with a null character in it, which leads nowhere at all. -/
  | unnamable
  deriving DecidableEq, Repr

/-- What is at a place whose directory is there. -/
def look (fs : Files) (here : Place) : Found :=
  if here.names = [] then .directory here
  else
    match fs.nodes.lookup here with
    | some .directory => .directory here
    | some (.file c) => .file here c
    | some .full => .full here
    | none => .vacant here

/-- The directory that a place is in. Above the top of a tree there is the root. -/
def Place.above (here : Place) : Place :=
  if here.names = [] then ⟨.root, []⟩ else { here with names := here.names.dropLast }

/-- The name is not too long for a directory. -/
def IsShort (name : String) : Prop := (Text.encodeUtf8 name.toList).length ≤ nameLimit

instance (name : String) : Decidable (IsShort name) :=
  inferInstanceAs (Decidable ((Text.encodeUtf8 name.toList).length ≤ nameLimit))

/-- One name further. -/
def advance (fs : Files) (found : Found) (name : String) : Found :=
  match found with
  | .directory here =>
    if name = ".." then .directory here.above
    else if IsShort name then fs.look { here with names := here.names ++ [name] }
    else .overlong
  | .vacant _ | .astray => .astray
  | .file .. | .full _ | .blocked => .blocked
  | .overlong => .overlong
  | .unnamable => .unnamable

/-- Follows the names of a path, however many they are. -/
def follow (fs : Files) (p : Path) : Found := p.parts.foldl fs.advance (.directory (Base.place p.base))

/-- There is room for the text of a path. -/
def fits (fs : Files) (base : Base) (text : String) : Bool :=
  (Text.encodeUtf8 text.toList).length ≤ fs.room base

/-- Follows a path that is written as `shown`. -/
def findAs (fs : Files) (shown : String) (p : Path) : Found :=
  if shown.toList.contains '\x00' then .unnamable
  else if fs.fits p.base shown then fs.follow p
  else .overlong

/-- Follows a path. -/
def find (fs : Files) (p : Path) : Found := fs.findAs p.text p

def isDirectory (fs : Files) (p : Path) : Except Fault Bool :=
  match fs.find p with
  | .directory _ => .ok true
  | .overlong => .error (.pathTooLong p.text)
  | _ => .ok false

/-- There is a file or directory. -/
def holds (fs : Files) (p : Path) : Except Fault Bool :=
  match fs.find p with
  | .directory _ | .file .. | .full _ => .ok true
  | .overlong => .error (.pathTooLong p.text)
  | _ => .ok false

/-! ## Reading -/

/-- The text of a file. Messages name the path as it is written. -/
def readAs (fs : Files) (shown : String) (p : Path) : Except Fault String :=
  match fs.findAs shown p with
  | .file _ c => c.read.mapError .undecodable
  | .full _ => .error .outOfMemory
  | .directory _ => .error (.isDirectory shown)
  | .vacant _ | .astray => .error (.fileMissing shown)
  | .blocked => .error (.notDirectory shown)
  | .overlong => .error (.pathTooLong shown)
  | .unnamable => .error .nullInPath

def read (fs : Files) (p : Path) : Except Fault String := fs.readAs p.text p

/-- The names that lead from one place to another below it. -/
def below? (top : Place) (here : Place) : Option (List String) :=
  if top.base = here.base ∧ top.names.isPrefixOf here.names then
    some (here.names.drop top.names.length)
  else none

/-- The directory that these names lead to is looked into: there is room for its path. -/
def opens (fs : Files) (p : Path) (names : List String) : Bool :=
  names = [] ∨ fs.fits p.base (joinText p.text ("/".intercalate names))

/-- The path of a file from a directory above it, if the directory that it is in is looked into. -/
def listed? (fs : Files) (p : Path) (top : Place) (entry : Place × Node) : Option String :=
  match below? top entry.1 with
  | some names =>
    if entry.2 ≠ .directory ∧ fs.opens p names.dropLast then some ("/".intercalate names) else none
  | none => none

/-- The paths of the files below a directory from there, in ascending order. -/
def filesBelow (fs : Files) (p : Path) : List String :=
  match fs.find p with
  | .directory top => Text.sortedSet (fs.nodes.filterMap (fs.listed? p top))
  | _ => []

/-! ## Writing -/

/-- Sets what is at a place. -/
def put (fs : Files) (here : Place) (node : Node) : Files :=
  if fs.nodes.any (·.1 = here) then
    { fs with nodes := fs.nodes.map fun n => if n.1 = here then (here, node) else n }
  else { fs with nodes := fs.nodes ++ [(here, node)] }

/-- What is written to a file. -/
inductive Writing
  /-- In place of what it held. -/
  | replace (c : Content)
  /-- Behind what it holds. -/
  | extend (s : String)
  deriving DecidableEq, Repr

namespace Writing

/-- What a file holds after that. -/
def onto : Writing → Option Content → Content
  | replace c, _ => c
  | extend s, some c => c.append s
  | extend s, none => .text s

def isEmpty : Writing → Bool
  | replace c => c.isEmpty
  | extend s => s = ""

end Writing

/-- Writes to a file, which is made if need be. -/
def write (fs : Files) (p : Path) (w : Writing) : Except Fault Files :=
  match fs.find p with
  | .file here c => .ok (fs.put here (.file (w.onto (some c))))
  | .vacant here => .ok (fs.put here (.file (w.onto none)))
  | .full _ => if w.isEmpty then .ok fs else .error .noSpace
  | .directory _ => .error (.isDirectory p.text)
  | .astray => .error (.fileMissing p.text)
  | .blocked => .error (.notDirectory p.text)
  | .overlong => .error (.pathTooLong p.text)
  | .unnamable => .error .nullInPath

/-- Makes the directories that a path needs. -/
def makeDirectories (fs : Files) (p : Path) : Files :=
  (p.parts.foldl (fun (state : Files × Found) name =>
    let (fs, found) := state
    match fs.advance found name with
    | .vacant here => (fs.put here .directory, .directory here)
    | found => (fs, found)) (fs, .directory (Base.place p.base))).1

/-- The path of the directory that a path is in. -/
def parent (p : Path) : Path := { p with parts := p.parts.dropLast }

/-- Puts a file where there may be no directory yet. -/
def place (fs : Files) (p : Path) (c : Content) : Except Fault Files :=
  (fs.makeDirectories (parent p)).write p (.replace c)

/-- Removes a file, or a directory with all that is below it. -/
def remove (fs : Files) (p : Path) : Except Fault Files :=
  match fs.find p with
  | .file here _ | .full here | .directory here =>
    .ok { fs with nodes := fs.nodes.filter fun n => (below? here n.1).isNone }
  | .vacant _ | .astray => .error (.fileMissing p.text)
  | .blocked => .error (.notDirectory p.text)
  | .overlong => .error (.pathTooLong p.text)
  | .unnamable => .error .nullInPath

end Files

end Emission
