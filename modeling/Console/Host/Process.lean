import Console.Host.Kernel

/-! Processes as trees of the steps that they take, and their running: one step after the other,
    always of a process that is furthest behind in time. Every step takes a little time, so that
    processes that run side by side get on as they would together. Processes become programs, and
    get signals. -/

namespace Console.Host

/-- A process: what is left for it to do. -/
inductive Process where
  /-- Ends with a status. -/
  | ended (status : Nat)
  /-- Takes a step that lasts so many nanoseconds. -/
  | step (duration : Nat) (f : Kernel → Kernel × Process)
  /-- Waits until there is something to be done. -/
  | await (f : Kernel → Option (Kernel × Process))
  /-- Makes another process, and goes on with its number. -/
  | fork (child : Process) (next : Nat → Process)

/-- A program: what a process does until there is a value, with which it goes on. -/
def Prog (α : Type) : Type := (α → Process) → Process

instance : Monad Prog where
  pure a := fun next => next a
  bind p f := fun next => p fun a => f a next

/-! ### Running -/

/-- A process that is to run, and the time at which it is. -/
structure Turn where
  time : Nat
  id : Nat
  process : Process

/-- Puts a turn behind those that are not later. -/
def Turn.enqueue (turn : Turn) : List Turn → List Turn
  | [] => [turn]
  | other :: rest =>
    if turn.time < other.time then turn :: other :: rest else other :: enqueue turn rest

/-- How long a process takes to make another one, and how long it is until that one runs. -/
def forkTime : Nat := 150000

/-- The time after which a new process takes its first step. -/
def startTime : Nat := 250000

/-- The time that a step takes after waiting. -/
def wakeTime : Nat := 1000

/-- When everything begins, in nanoseconds. -/
def epoch : Int := 1760000000000000000

/-- Takes so many steps at most. Processes that wait are looked at again whenever something has
    happened; when nothing can happen any more, everything stands still. -/
def Kernel.run : Nat → Kernel → List Turn → List Turn → Kernel
  | 0, w, _, _ => w
  | fuel + 1, w, ready, waiting =>
    if w.stirred && !waiting.isEmpty then
      let now := (w.files.now - epoch).toNat
      let woken := waiting.foldl
        (fun l t => Turn.enqueue { t with time := max t.time now } l) ready
      Kernel.run fuel { w with stirred := false } woken []
    else
      match ready with
      | [] => w
      | turn :: ready =>
        if !w.isAlive turn.id then Kernel.run fuel w ready waiting
        else
          let files := { w.files with now := epoch + turn.time }
          let w := { w with current := turn.id, files := files, stirred := false }
          match turn.process with
          | .ended status => Kernel.run fuel (w.finish turn.id (.exited status)) ready waiting
          | .step duration f =>
            let (w, p) := f w
            let turn := { turn with time := turn.time + duration, process := p }
            Kernel.run fuel w (turn.enqueue ready) waiting
          | .await f =>
            match f w with
            | none => Kernel.run fuel w ready (turn :: waiting)
            | some (w, p) =>
              let turn := { turn with time := turn.time + wakeTime, process := p }
              Kernel.run fuel w (turn.enqueue ready) waiting
          | .fork child next =>
            let (id, w) := w.fork
            let parent := { turn with time := turn.time + forkTime, process := next id }
            let child : Turn := ⟨turn.time + startTime, id, child⟩
            Kernel.run fuel w (child.enqueue (parent.enqueue ready)) waiting

namespace Prog

/-! ### Steps of programs -/

/-- Ends the process. -/
def exit {α : Type} (status : Nat) : Prog α := fun _ => .ended status

/-- Changes what processes share, and answers something. -/
def act {α : Type} (f : Kernel → α × Kernel) : Prog α := fun next =>
  .step 2000 fun w =>
    let (a, w) := f w
    (w, next a)

/-- Looks at what processes share. -/
def see {α : Type} (f : Kernel → α) : Prog α := act fun w => (f w, w)

/-- Waits until a change can be made. -/
def await {α : Type} (f : Kernel → Option (α × Kernel)) : Prog α := fun next =>
  .await fun w => (f w).map fun (a, w) => (w, next a)

/-- Lets time pass. -/
def sleep (duration : Nat) : Prog Unit := fun next => .step duration fun w => (w, next ())

/-- Makes a process that runs a program, whose answer is its status. -/
def fork (child : Prog Nat) : Prog Nat := fun next => .fork (child .ended) next

/-- Waits for a process of its own. -/
def collect (id : Nat) : Prog Ending := await fun w => w.collect? id

/-! ### Reading and writing -/

/-- How much is read at once. -/
def pieceSize : Nat := 65536

/-- How many pieces are read or written at most. -/
def manyPieces : Nat := 1000000000

/-- Reads a piece of what a descriptor leads to; none at its end. -/
def readPiece (descriptor : Nat) : Prog (Except Obstacle Text) :=
  await fun w => w.read? descriptor pieceSize

/-- Reads all pieces, which are given from the last one, and answers them joined. -/
def readPieces (descriptor : Nat) : Nat → List Text → Prog (Except Obstacle Text)
  | 0, read => pure (.ok read.reverse.flatten)
  | fuel + 1, read => do
    match ← readPiece descriptor with
    | .error e => pure (.error e)
    | .ok [] => pure (.ok read.reverse.flatten)
    | .ok t => readPieces descriptor fuel (t :: read)

/-- Reads all that a descriptor leads to. -/
def readAll (descriptor : Nat) : Prog (Except Obstacle Text) := readPieces descriptor manyPieces []

/-- Writes octets piece by piece. -/
def writePieces (descriptor : Nat) : Nat → Text → Prog (Except Obstacle Unit)
  | 0, _ => pure (.ok ())
  | fuel + 1, t => do
    match ← await fun w => w.write? descriptor t with
    | .error e => pure (.error e)
    | .ok n =>
      match t.drop n with
      | [] => pure (.ok ())
      | rest => writePieces descriptor fuel rest

/-- Writes octets to a descriptor. -/
def write (descriptor : Nat) (t : Text) : Prog (Except Obstacle Unit) :=
  writePieces descriptor manyPieces t

/-- Writes octets where nothing can be done about a failure. -/
def put (descriptor : Nat) (t : Text) : Prog Unit := do
  if !t.isEmpty then
    let _ ← write descriptor t

end Prog

/-! ### Programs: what a process can become -/

/-- What a program is started with. -/
structure Call where
  name : Text
  arguments : List Text
  environment : List (Text × Text)

/-- Becomes the program at a path and answers its status, or why there is no program. -/
abbrev Start := Text → Call → Prog (Except Files.Fault Nat)

/-- What a process does as a program, up to its status. -/
abbrev Program := Start → Call → Prog Nat

namespace Call

/-- The value of a variable of the environment. -/
def variable_ (c : Call) (name : String) : Option Text := c.environment.lookup name.toList

end Call

/-- Where commands are looked for if nothing else is said. -/
def usualPath : Text := "/usr/local/sbin:/usr/local/bin:/usr/sbin:/usr/bin:/sbin:/bin".toList

/-- The paths at which a command can be. A name with a slash is a path itself, and an empty
    directory is the current one. -/
def candidates (path name : Text) : List Text :=
  if name.elem '/' then [name]
  else (Text.splitOn ':' path).map fun d => if d.isEmpty then name else d ++ '/' :: name

/-- Becomes the first of the programs at some paths. Of the reasons why there is none, the last one
    counts that is more than that nothing is there. -/
def startFirst (start : Start) (call : Call) (found : Files.Fault) :
    List Text → Prog (Except Files.Fault Nat)
  | [] => pure (.error found)
  | t :: rest => do
    match ← start t call with
    | .ok status => pure (.ok status)
    | .error e =>
      startFirst start call (if e = .notFound ∨ e = .notDirectory then found else e) rest

/-- Becomes the program of a name, which is looked for. -/
def startNamed (start : Start) (call : Call) : Prog (Except Files.Fault Nat) :=
  let path := (call.variable_ "PATH").getD "/bin:/usr/bin".toList
  match call.name with
  | [] => pure (.error .notFound)
  | name => startFirst start call .notFound (candidates path name)

/-- The status of a program that could not be started. -/
def startStatus (fault : Files.Fault) : Nat :=
  match fault with
  | .notFound | .notDirectory | .nameTooLong | .tooManyLinks => 127
  | _ => 126

/-! ### Signals: their numbers and names, and the words for them -/

namespace Signal

/-- The names of the signals from number zero on, which stands for the end of the script. -/
def firstNames : List String :=
  ["EXIT", "HUP", "INT", "QUIT", "ILL", "TRAP", "ABRT", "BUS", "FPE", "KILL", "USR1", "SEGV",
    "USR2", "PIPE", "ALRM", "TERM", "16", "CHLD", "CONT", "STOP", "TSTP", "TTIN", "TTOU", "URG",
    "XCPU", "XFSZ", "VTALRM", "PROF", "WINCH", "IO", "PWR", "SYS", "32", "33"]

/-- How many signals there are, with number zero. -/
def count : Nat := 65

/-- The number of the first signal that is left to programs. -/
def firstFree : Nat := 34

/-- The name of a signal. Those that are left to programs are named by their distance from the
    nearer end. -/
def name (n : Nat) : Text :=
  match firstNames[n]? with
  | some s => s.toList
  | none =>
    if n = firstFree then "RTMIN".toList
    else if n = count - 1 then "RTMAX".toList
    else if n < firstFree + 16 then "RTMIN+".toList ++ Text.ofNat (n - firstFree)
    else "RTMAX-".toList ++ Text.ofNat (count - 1 - n)

/-- The number of a signal that is given by its number. -/
def ofNumeral? (t : Text) : Option Nat := (Text.toNat? t).filter fun n => n < count

/-- The number of a signal, from the least one that is meant, that is given by number or name. -/
def ofText? (least : Nat) (t : Text) : Option Nat :=
  if (Text.toNat? t).isSome then ofNumeral? t
  else
    (List.range count).find? fun n =>
      n ≥ least && Text.lowerAscii (name n) == Text.lowerAscii t

/-- The words for the signals that a shell reports when they end a command. -/
def words : List (Nat × String) :=
  [(1, "Hangup"), (2, "Interrupt"), (3, "Quit"), (4, "Illegal instruction"),
    (5, "Trace/breakpoint trap"), (6, "Aborted"), (7, "Bus error"), (8, "Floating point exception"),
    (9, "Killed"), (10, "User defined signal 1"), (11, "Segmentation fault"),
    (12, "User defined signal 2"), (13, "Broken pipe"), (14, "Alarm clock"), (15, "Terminated"),
    (16, "Stack fault"), (24, "CPU time limit exceeded"), (25, "File size limit exceeded"),
    (26, "Virtual timer expired"), (27, "Profiling timer expired"), (29, "I/O possible"),
    (30, "Power failure"), (31, "Bad system call")]

/-- The words for a signal. -/
def describe (n : Nat) : Text :=
  match words.lookup n with
  | some s => s.toList
  | none =>
    if n < firstFree then "Unknown signal ".toList ++ Text.ofNat n
    else "Real-time signal ".toList ++ Text.ofNat (n - firstFree)

/-- The line that reports the end of a command by a signal. An interrupt and a pipe that nobody
    reads are no news. -/
def announcement (n : Nat) : Text :=
  if n = 2 ∨ n = 13 then [] else describe n ++ ['\n']

end Signal

end Console.Host
