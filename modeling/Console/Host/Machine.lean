import Console.Entries
import Console.Host.Numeral
import Console.Host.Access
import Console.Host.Source

/-! The state of a shell, which is its own and no other process sees: variables, functions, options
    and what it does on signals. What a shell does changes that state and takes steps as a
    process. -/

namespace Console.Host

/-- A variable. One without value can be marked all the same. -/
structure Variable where
  value : Option Text
  isExported : Bool
  isReadOnly : Bool

/-- A variable of which nothing is known. -/
def Variable.unset : Variable := ⟨none, false, false⟩

/-- Processes that run beside the shell. The last of them decides. -/
structure Job where
  number : Nat
  processes : List (Nat × Option Ending)
  /-- Whether the shell has been told of its end. -/
  isKnown : Bool

/-- What is restored at the end of a function. -/
inductive Kept where
  | variable_ (name : Text) (old : Option Variable)
  | options (old : List Char)

/-- The row of a name in a table with so many rows. -/
def bucket (rows : Nat) (name : Text) : Nat :=
  match name with
  | [] => 0
  | c :: _ => (c.toNat * 16 + (name.map Char.toNat).foldl (· + ·) 0) % rows

/-- Names with what belongs to them as they stand in a table with so many rows: row by row, and in a
    row in their own order. -/
def inBuckets {α : Type} (rows : Nat) (l : List (Text × α)) : List (Text × α) :=
  (List.range rows).flatMap fun i => l.filter fun (n, _) => bucket rows n == i

/-- The state of a shell. -/
structure Machine where
  /-- How the shell becomes other programs. -/
  start : Start
  /-- The name of the script, which stands in front of its reports. -/
  name : Text
  /-- The command that runs others in its place, as reports name it. -/
  commandName : Option Text
  /-- The number of the shell that runs the script, also in its subshells. -/
  shellId : Nat
  /-- The line of the command that runs. -/
  line : Nat
  /-- The line up to which the script has been read. -/
  readLine : Nat
  bindings : List (Text × Variable)
  /-- The positional parameters. -/
  parameters : List Text
  /-- How many characters of the argument that `getopts` looks at have been dealt with. -/
  optionOffset : Option Nat
  /-- The number of the next argument for `getopts`. -/
  optionIndex : Nat
  /-- The exit status of the last command. -/
  status : Nat
  /-- The exit status of the last script in a word of the command that runs. -/
  innerStatus : Nat
  /-- The exit status before the action that runs because of a signal. -/
  savedStatus : Option Nat
  /-- How many loops of the function that runs surround the command. -/
  loops : Nat
  /-- How many functions surround the command. -/
  calls : Nat
  /-- What the functions that run restore, the innermost first. -/
  scopes : List (List Kept)
  functions : List (Text × Command)
  aliases : List (Text × Text)
  /-- The options that are on. -/
  options : List Char
  /-- The actions on signals, by their numbers. -/
  traps : List (Nat × Text)
  /-- The signals that had no effect when the shell began. -/
  deaf : List Nat
  jobs : List Job
  /-- The last process that was started in the background. -/
  lastJob : Option Nat
  /-- The current directory, as the script names it. -/
  directory : Text
  /-- Where commands were found. -/
  hashed : List (Text × Text)
  /-- The documents of the script, by their numbers. -/
  documents : List (Nat × List Part)
  nextDocument : Nat
  /-- What redirections have replaced, for those around the command, the innermost first: a
      descriptor, and the one that keeps what it led to. -/
  frames : List (List (Nat × Option Nat))
  /-- Whether the prompt of a trace is being made, which is not traced itself. -/
  isPrompting : Bool
  /-- Whether a command of the shell could not write what it had to. -/
  hasLost : Bool

/-- What keeps a script from going on with the next command. -/
inductive Flow where
  /-- Ends the shell. -/
  | exit
  /-- Ends the command that the shell itself carries out, or else the shell. -/
  | failure
  /-- Leaves so many loops. -/
  | leave (loops : Nat)
  /-- Goes on with the next turn of the loop so many levels out. -/
  | skip (loops : Nat)
  | return_

/-- Something that a shell does. -/
def Run (α : Type) : Type := Machine → (Except Flow α → Machine → Process) → Process

instance : Monad Run where
  pure a := fun m next => next (.ok a) m
  bind x f := fun m next => x m fun r m =>
    match r with
    | .ok a => f a m next
    | .error e => next (.error e) m

instance : MonadExceptOf Flow Run where
  throw e := fun m next => next (.error e) m
  tryCatch x handle := fun m next => x m fun r m =>
    match r with
    | .ok a => next (.ok a) m
    | .error e => handle e m next

instance : MonadStateOf Machine Run where
  get := fun m next => next (.ok m) m
  set m := fun _ next => next (.ok ()) m
  modifyGet f := fun m next =>
    let (a, m) := f m
    next (.ok a) m

instance : MonadLift Prog Run where
  monadLift p := fun m next => p fun a => next (.ok a) m

namespace Machine

/-! ### Variables -/

/-- The variable of a name. -/
def binding? (m : Machine) (name : Text) : Option Variable := m.bindings.lookup name

/-- The value of a variable. -/
def value? (m : Machine) (name : Text) : Option Text :=
  (m.binding? name).bind Variable.value

/-- The value of a variable that is known to the shell. -/
def known (m : Machine) (name : String) : Text := (m.value? name.toList).getD []

/-- Puts a variable. -/
def putVariable (m : Machine) (name : Text) (v : Variable) : Machine :=
  { m with bindings := Entries.put name v m.bindings }

/-- What other variables mean to the shell itself. -/
def noticing (m : Machine) (name : Text) (value : Option Text) : Machine :=
  if name = "OPTIND".toList then
    { m with optionIndex := max 1 ((value.bind Text.toNat?).getD 1), optionOffset := none }
  else if name = "PATH".toList then { m with hashed := [] }
  else m

/-- Sets a variable. With the option for it, all that is set is exported. -/
def setVariable (m : Machine) (name value : Text) : Machine :=
  let old := (m.binding? name).getD .unset
  let isExported := old.isExported || m.options.contains 'a'
  (m.putVariable name { old with value := some value, isExported := isExported }).noticing name
    (some value)

/-- Removes a variable. -/
def removeVariable (m : Machine) (name : Text) : Machine :=
  ({ m with bindings := m.bindings.filter fun (n, _) => n != name } : Machine).noticing name none

/-- Restores a variable. -/
def restoreVariable (m : Machine) (name : Text) : Option Variable → Machine
  | some v => (m.putVariable name v).noticing name v.value
  | none => m.removeVariable name

/-- Restores what was kept. -/
def restore (m : Machine) : Kept → Machine
  | .variable_ name old => m.restoreVariable name old
  | .options old => { m with options := old }

/-- The variables that other programs see. -/
def environment (m : Machine) : List (Text × Text) :=
  inBuckets 39 (m.bindings.filterMap fun (n, v) =>
    if v.isExported then v.value.map fun t => (n, t) else none)

/-- Whether an option is on. -/
def has (m : Machine) (option : Char) : Bool := m.options.contains option

/-- The separators of fields. -/
def separators (m : Machine) : Text := (m.value? "IFS".toList).getD " \t\n".toList

end Machine

/-! ### Running -/

namespace Run

/-- Runs something and answers also how it stopped, if it did. -/
def attempt {α : Type} (x : Run α) : Run (Except Flow α) := fun m next =>
  x m fun r m => next (.ok r) m

/-- Goes on where something has stopped. -/
def resume {α : Type} : Except Flow α → Run α
  | .ok a => pure a
  | .error e => throw e

/-- Ends as a process, with the status of the last command. -/
def ending : Except Flow Unit → Machine → Process := fun _ m => .ended (m.status % 256)

/-- Lets another process do something from the same state on, and answers its number. -/
def fork (child : Run Unit) : Run Nat := fun m next =>
  .fork (child m ending) fun id => next (.ok id) m

/-- Goes on as another program. -/
def become {α : Type} (p : Prog Nat) : Run α := fun _ _ => p .ended

end Run

/-- Sets the exit status. -/
def setStatus (n : Nat) : Run Unit := modify fun m => { m with status := n }

/-- Writes octets; what cannot be written is lost. -/
def put (descriptor : Nat) (t : Text) : Run Unit := Prog.put descriptor t

/-- Writes what a command of the shell answers, and notes if that fails. -/
def answerWith (t : Text) : Run Unit := do
  if !t.isEmpty then
    if let .error _ ← (Prog.write 1 t : Prog (Except Obstacle Unit)) then
      modify fun m => { m with hasLost := true }

/-- Reports on the descriptor for errors, with the name of the script and the line in front, and the
    command that runs. -/
def report (message : Text) : Run Unit := do
  let m ← get
  let command := match m.commandName with
    | some t => t ++ ": ".toList
    | none => []
  put 2 (m.name ++ ": ".toList ++ Text.ofNat m.line ++ ": ".toList ++ command ++ message ++ ['\n'])

/-- Stops what the shell carries out itself, or else the script. -/
def breakOff {α : Type} : Run α := do
  setStatus 2
  throw .failure

/-- Reports and stops. -/
def fail {α : Type} (message : Text) : Run α := do
  report message
  breakOff

/-- Stops what takes more steps than anything does. -/
def exhausted {α : Type} : Run α := do
  setStatus 2
  throw .exit

/-- Ends the process by a signal to itself. -/
def killedBy {α : Type} (signal : Nat) : Run α := do
  (Prog.act fun w => ((), w.signal w.current signal) : Prog Unit)
  throw .exit

/-- A number of an argument, which is not negative. -/
def natural? (t : Text) : Option Nat :=
  match Numeral.whole? 10 t with
  | some n => if 0 ≤ n ∧ n < 2147483648 then some n.toNat else none
  | none => none

/-- The number of an argument. -/
def numberOf (t : Text) : Run Nat := do
  match natural? t with
  | some n => pure n
  | none => fail ("Illegal number: ".toList ++ t)

/-- Sets a variable unless it is read-only, which stops. -/
def assign (name value : Text) : Run Unit := do
  let m ← get
  if !isName name then fail (name ++ ": bad variable name".toList)
  if (m.binding? name).any Variable.isReadOnly then fail (name ++ ": is read only".toList)
  set (m.setVariable name value)
  if name = "OPTIND".toList then
    let _ ← numberOf value

end Console.Host
