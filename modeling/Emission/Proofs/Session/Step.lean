import Emission.Proofs.Session.Actions
import Emission.Proofs.Template.Group

/-!
# Steps of a session

The calls that runs are made, loaded and used with, in any order, and what they answer. A step names the
objects it is about by their places; one that names a place where nothing is fails. `history` is what a list
of steps answers, `after` the session that it leads to.
-/

namespace Emission.Session

open Files (Content)
open Target (Identity)
open Template (Group)

/-! ## Asking for a group -/

/-- The group that a cache keeps for a target. If there is none, one is made and kept. -/
def obtainGroup (place : Nat) (i : Identity) (make : Action Nat) : Action Nat := do
  let (found, c) := (← cache place).request i
  setCache place c
  match found with
  | some g =>
    report .cache (.cacheHit (.text i.name))
    return g
  | none =>
    report .cache (.cacheMiss (.text i.name))
    let built ← attempt make
    let (answer, c) := (← cache place).settle i (built.map some)
    setCache place c
    let g ← MonadExcept.ofExcept answer
    report .cache (.groupLoaded (.text i.name) (.int (← group g).size))
    return g

/-- Templates are loaded by asking the cache of the run for the group of the target. -/
theorem loadGroup_eq (targetPlace runPlace : Nat) :
    loadGroup targetPlace runPlace = (do
      let t ← target targetPlace
      let r ← run runPlace
      obtainGroup r.cache t.identity (buildGroup t r.options)) := rfl

/-- Makes a group of templates, as it is before anything is registered with it. -/
def plainGroup (name : String) (dir : Option String) (options : Option Options) : Action Nat := do
  addGroup (← createGroup name dir options)

/-! ## Steps -/

/-- What can be changed of a draft. -/
inductive Change
  | grammar (grammar : Option String)
  | options (options : Option Options)
  | note (key value : Value)
  /-- The run is to use this cache. -/
  | cache (place : Nat)

def Change.apply (d : Run.Draft) : Change → Run.Draft
  | grammar g => d.withGrammar g
  | options o => d.withOptions o
  | note key value => d.withNote key value
  | cache place => d.withCache place

/-- The cache that a changed draft has is the one it is given or the one it had. -/
theorem cache_apply {d : Run.Draft} {c : Change} {place : Nat} (h : (c.apply d).cache = some place) :
    c = .cache place ∨ d.cache = some place := by
  cases c with
  | cache shared => exact .inl (congrArg Change.cache (Option.some.inj h))
  | _ => exact .inr h

/-- How a cache is named: by a run that uses it, or by its place. -/
inductive CacheName
  | ofRun (run : Nat)
  | place (place : Nat)

/-- The place of the named cache. -/
def CacheName.find : CacheName → Action Nat
  | ofRun r => Run.cache <$> run r
  | place p => return p

def CacheName.run? : CacheName → Option Nat
  | ofRun r => some r
  | place _ => none

/-- What can be asked of a cache. -/
inductive Inquiry
  | get (i : Identity)
  | contains (i : Identity)
  | invalidate (i : Identity)
  | clear
  | statistics

/-- What a group can be used for. -/
inductive Use
  /-- All there is to see of the group. -/
  | look
  | format (v : Value) (mode : String)
  | render (name : String) (values : List (String × Value))
  | renderText (source : String) (values : List (String × Value))

/-- A call of a session. -/
inductive Step
  | addTarget (t : Target)
  | openCache
  | createRun (grammar : String) (options : Option Options) (metadata : List (Value × Value))
  | openDraft
  | changeDraft (draft : Nat) (change : Change)
  | buildRun (draft : Nat)
  /-- The templates of a target for a run. -/
  | load (target run : Nat)
  /-- A group from a cache, or else a new one of the templates in a directory; what is handed over when the cache
  has none is never a group that exists already. -/
  | obtain (cache : CacheName) (i : Identity) (dir : Option String) (options : Option Options)
  | inquire (cache : CacheName) (i : Inquiry)
  | register (group : Nat) (r : Group.Registration)
  | use (group : Nat) (u : Use)
  | putFile (name : String) (c : Content)
  | makeDirectory (name : String)
  | removeFile (name : String)

/-- What a step answers when it does not fail. -/
inductive Answer
  | done
  /-- The place of an object that was made. -/
  | place (n : Nat)
  /-- The place of a group from a cache. -/
  | group (place : Nat)
  | noGroup
  | truth (b : Bool)
  | text (t : String)
  | statistics (entries : Nat) (targets : List String) (hits misses : Nat)
  | looks (g : Group)

/-- Changes a draft; a cache that it is given has to be there. -/
def Change.act (c : Change) (place : Nat) : Action Answer := do
  if let .cache shared := c then let _ ← Session.cache shared
  setDraft place (c.apply (← draft place))
  return .done

def Inquiry.act (i : Inquiry) (name : CacheName) : Action Answer := do
  let place ← name.find
  let c ← cache place
  match i with
  | get i => return (c.get i).elim .noGroup .group
  | contains i => return .truth (c.contains i)
  | invalidate i =>
    setCache place (c.invalidate i).2
    return .truth (c.invalidate i).1
  | clear =>
    setCache place c.clear
    return .done
  | statistics => return .statistics c.size c.targets c.hits c.misses

def Use.answer (g : Group) : Use → Except Fault Answer
  | look => .ok (.looks g)
  | format v mode => ((g.format v mode).mapError .misuse).map .text
  | render name values => (g.render name values).map .text
  | renderText source values => (g.renderText source values).map .text

namespace Step

def act : Step → Action Answer
  | addTarget t => .place <$> Session.addTarget t
  | openCache => .place <$> addCache {}
  | createRun grammar options metadata => .place <$> Session.createRun grammar options metadata
  | openDraft => .place <$> addDraft {}
  | changeDraft d c => c.act d
  | buildRun d => .place <$> Session.buildRun d
  | load t r => .group <$> loadGroup t r
  | obtain cache i dir options => do
    .group <$> obtainGroup (← cache.find) i (plainGroup i.name dir options)
  | inquire cache i => i.act cache
  | register g (.renderer mode f) => do
    registerRenderer g mode f
    return .done
  | register g (.constant name v) => do
    setGlobal g name v
    return .done
  | use g u => do MonadExcept.ofExcept (u.answer (← group g))
  | putFile name c => do
    Session.putFile name c
    return .done
  | makeDirectory name => do
    Session.makeDirectory name
    return .done
  | removeFile name => do
    Session.removeFile name
    return .done

/-- The run that a step gets its group through. -/
def through? : Step → Option Nat
  | load _ r => some r
  | obtain cache .. | inquire cache _ => cache.run?
  | _ => none

/-- The group that a step is about. -/
def group? : Step → Option Nat
  | register g _ | use g _ => some g
  | _ => none

/-- Does a step register something with a group among these? -/
def registersAmong (gs : List Nat) : Step → Bool
  | register g _ => gs.contains g
  | _ => false

end Step

/-! ## Histories -/

/-- The session after the given steps. -/
def after (s : Session) : List Step → Session
  | [] => s
  | step :: rest => after (s.perform step.act).2 rest

/-- Steps, each with what it answers, the first one first. -/
def history (s : Session) : List Step → List (Step × Except Fault Answer)
  | [] => []
  | step :: rest => (step, (s.perform step.act).1) :: history (s.perform step.act).2 rest

theorem after_append (s : Session) (steps more : List Step) :
    s.after (steps ++ more) = (s.after steps).after more := by
  induction steps generalizing s with
  | nil => rfl
  | cons step rest ih => exact ih (s.perform step.act).2

/-- The group that was answered to a step through this run, if one was. -/
def groupThrough? (run : Nat) : Step × Except Fault Answer → Option Nat
  | (step, .ok (.group g)) => if step.through? = some run then some g else none
  | _ => none

/-- The groups that were answered through a run. -/
def obtained (s : Session) (steps : List Step) (run : Nat) : List Nat :=
  (s.history steps).filterMap (groupThrough? run)

end Emission.Session
