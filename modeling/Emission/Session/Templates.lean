import Emission.Session

/-!
# Templates in a session

Making template groups and runs, and keeping the groups of a run in its cache.
-/

namespace Emission.Session

open Files (Path)
open Template (Cache Group GroupOptions)

/-! ## Groups -/

/-- The group of the templates in a directory, or of those that come with the library. -/
def openGroup (name : String) (dir : Option String) (o : GroupOptions) : Action Group := do
  let path := match dir with
    | some dir => Path.ofText dir
    | none => Group.shippedDir name
  MonadExcept.ofExcept (Group.ofDirectory (← get).files name path o)

/-- The directory of a target's templates that options name. -/
def optionDir (name : String) (o : Options) : Except Fault (Option String) :=
  if !o.templateDir.truthy then .ok none
  else
    match o.templateDir with
    | .text dir => .ok (some (Files.joinText dir name))
    | v => .error (.pathExpected v.kind)

/-- The group of a target, from the given directory or the one that the options name. -/
def createGroup (name : String) (dir : Option String) (options : Option Options) : Action Group := do
  let dir ← match dir, options with
    | none, some o => MonadExcept.ofExcept (optionDir name o)
    | dir, _ => pure dir
  let o : GroupOptions := match options with
    | some o => ⟨o.trimBlocks, o.lstripBlocks, o.keepTrailingNewline, o.debugMode⟩
    | none => {}
  let g ← openGroup name dir o
  record .templates .debug
    ("Parsed " ++ toString g.size ++ " templates from " ++ g.dir.text)
  return g

/-- The group of a target for a run: with the renderers of the target, and the escape mode of the run
known to every template. -/
def buildGroup (t : Target) (o : Options) : Action Nat := do
  let g ← createGroup t.name none (some o)
  let g ← MonadExcept.ofExcept (g.registerAll t.strategy.renderers)
  addGroup (g.setGlobal "escape_mode" o.escapeMode)

def registerRenderer (place : Nat) (mode : String) (f : Escape.Renderer) : Action Unit := do
  setGroup place (← MonadExcept.ofExcept ((← group place).registerRenderer mode f))

def setGlobal (place : Nat) (name : String) (v : Value) : Action Unit := do
  setGroup place ((← group place).setGlobal name v)

/-! ## Runs -/

/-- Makes a run with a cache of its own. -/
def createRun (grammar : String) (options : Option Options) (metadata : List (Value × Value)) :
    Action Nat := do
  let r ← MonadExcept.ofExcept (Run.make grammar options metadata (← get).caches.next)
  let _ ← addCache {}
  addRun r

/-- Makes the run that a draft describes. -/
def buildRun (place : Nat) : Action Nat := do
  let d ← draft place
  let r ← MonadExcept.ofExcept (d.build (← get).caches.next)
  if d.cache.isNone then let _ ← addCache {}
  addRun r

/-- The templates of a target for a run, from the cache of the run if they are there. -/
def loadGroup (targetPlace runPlace : Nat) : Action Nat := do
  let t ← target targetPlace
  let r ← run runPlace
  let (found, c) := (← cache r.cache).request t.identity
  setCache r.cache c
  match found with
  | some g =>
    report .cache (.cacheHit (.text t.name))
    return g
  | none =>
    report .cache (.cacheMiss (.text t.name))
    let built ← attempt (buildGroup t r.options)
    let (answer, c) := (← cache r.cache).settle t.identity (built.map some)
    setCache r.cache c
    let g ← MonadExcept.ofExcept answer
    report .cache (.groupLoaded (.text t.name) (.int (← group g).size))
    return g

end Emission.Session
