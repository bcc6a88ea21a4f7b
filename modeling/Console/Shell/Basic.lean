import Console.Files
import Console.Session.Basic

/-! The shell flavor: each expression is a script that runs in a fresh shell. What it writes is the
    result, unless it ends with a status other than zero or by a signal. The shell itself, and the
    system on which it runs, are a parameter. -/

namespace Console.Shell

/-- What a script leaves that has run. -/
structure Outcome where
  /-- The status with which it has ended, or none if a signal has ended it. -/
  status : Option Nat
  /-- The octets that it wrote as its output. -/
  output : Text
  /-- The octets that it wrote as its errors. -/
  errors : Text

/-- A system on which scripts run. None runs if the directory cannot be entered. -/
abbrev System (σ : Type) := Text → σ → Except Files.Fault Outcome × σ

/-- Why a script has no result. -/
inductive Fault where
  /-- The script holds a character that no argument can hold. -/
  | nulInScript
  /-- The directory to run in cannot be entered. -/
  | noDirectory (cause : Files.Fault)
  | failed (status : Nat) (errors : Text)
  | terminated (errors : Text)
  deriving DecidableEq, Repr

/-- The wording of a fault. -/
def Fault.message : Fault → Text
  | .nulInScript => "failed to start shell: nul byte found in provided data".toList
  | .noDirectory cause => "failed to start shell: ".toList ++ cause.message
  | .failed status errors =>
    "exit status ".toList ++ Text.ofNat status ++ ": ".toList ++ errors
  | .terminated errors => "terminated by signal: ".toList ++ errors

/-- How octets that a script wrote are shown. -/
def shown (octets : Text) : Text := (Octets.toText octets).trimEnd

/-- The result of a script that has run. -/
def Outcome.result (o : Outcome) : Except Fault Text :=
  match o.status with
  | some 0 => .ok (shown o.output)
  | some status => .error (.failed status (shown o.errors))
  | none => .error (.terminated (shown o.errors))

/-- Runs a script on a system. -/
def execute {σ : Type} (system : System σ) (script : Text) (s : σ) : Except Fault Text × σ :=
  if '\x00' ∈ script then (.error .nulInScript, s)
  else
    match system script s with
    | (.error cause, s) => (.error (.noDirectory cause), s)
    | (.ok outcome, s) => (outcome.result, s)

/-- The evaluator of the flavor on a system. -/
def evaluatorOn {σ : Type} (system : System σ) : Evaluator σ := fun expression s =>
  (execute system expression s).map (·.mapError Fault.message) id

end Console.Shell
