import Console.Host
import Console.Settings.Environment
import Console.Store.Place

/-! The shell flavor on the emulated system. Files are all that stays from one script to the
    next. -/

namespace Console.Shell

/-- The files of the system before anything has been put there. -/
def systemFiles : Files := Host.systemFiles

/-- Where commands are looked for if nothing else is said. -/
def usualPath : Text := Host.usualPath

/-- The files of the emulated system, on which scripts run in a directory. -/
def emulated (env : Environment) (directory : Except Files.Fault Nat) : System Files :=
  fun script files =>
    match directory with
    | .error cause => (.error cause, files)
    | .ok base => (Host.runIn env files base script).map .ok id

/-- Runs a script in a directory. -/
def runIn (env : Environment) (files : Files) (directory : Except Files.Fault Nat) (script : Text) :
    Except Fault Text × Files :=
  execute (emulated env directory) script files

/-- The directory that a path names, seen from another one. -/
def directoryOf (files : Files) (base : Nat) (path : Text) : Except Files.Fault Nat :=
  (files.locate base path true).bind fun n =>
    if files.isDirectory n then .ok n else .error .notDirectory

/-- The evaluator of the shell flavor at a place. -/
def evaluator (env : Environment) : Evaluator Place :=
  evaluatorOn fun script place =>
    (emulated env (.ok place.base) script place.files).map id fun files =>
      { place with files := files }

end Console.Shell
