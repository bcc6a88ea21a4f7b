import Console.Host.Builtin.Basic

/-! Commands of the shell about processes: those that run beside it, signals, and what it does when
    they come. -/

namespace Console.Host.Builtin

/-! ### Processes beside the shell -/

/-- Notes how processes have ended. -/
def noteEndings (endings : List (Nat × Ending)) (jobs : List Job) : List Job :=
  jobs.map fun j =>
    { j with processes := j.processes.map fun (id, e) => (id, e.or (endings.lookup id)) }

/-- Asks for the ends of processes. -/
def collectAll (w : Kernel) : List Nat → List (Nat × Ending) × Kernel
  | [] => ([], w)
  | id :: rest =>
    match w.collect? id with
    | some (e, w) =>
      let (l, w) := collectAll w rest
      ((id, e) :: l, w)
    | none => collectAll w rest

/-- The processes of a job that have not ended as far as the shell knows. -/
def running (j : Job) : List Nat :=
  j.processes.filterMap fun (id, e) => if e.isNone then some id else none

/-- Looks how the processes beside the shell fare. -/
def refresh : Run Unit := do
  let ids := (← get).jobs.flatMap running
  if !ids.isEmpty then
    let endings ← (Prog.act fun w => collectAll w ids : Prog _)
    modify fun m => { m with jobs := noteEndings endings m.jobs }

/-- Adds a job for processes. Jobs that have ended and that the script knows of give way. -/
def addJob (ids : List Nat) : Run Unit := do
  modify fun m =>
    let jobs := m.jobs.filter fun j => !(j.isKnown && (running j).isEmpty)
    let taken := jobs.map Job.number
    let number := ((List.range (taken.length + 1)).map (· + 1)).find? fun n => !taken.contains n
    { m with
      jobs := ⟨number.getD 1, ids.map fun id => (id, none), false⟩ :: jobs
      lastJob := ids.getLast? }

/-- The status that an end comes to. -/
def statusOf : Ending → Nat
  | .exited n => n
  | .killed signal => 128 + signal

/-- How a job has ended, if it has. -/
def endOf (j : Job) : Option Ending :=
  if (running j).isEmpty then j.processes.getLast?.bind Prod.snd else none

/-- The words for the state of a job. -/
def stateOf (j : Job) : Text :=
  match endOf j with
  | none => "Running".toList
  | some (.exited 0) => "Done".toList
  | some (.exited n) => "Done(".toList ++ Text.ofNat n ++ [')']
  | some (.killed n) => Signal.describe n

/-- The job that an argument names. -/
def jobOf (name : Option Text) : Run Job := do
  let jobs := (← get).jobs
  let pick (message : Text) : Option Job → Run Job
    | some j => pure j
    | none => fail message
  let unknown (t : Text) : Text := "No such job: ".toList ++ t
  match name with
  | none | some ['%'] | some ['%', '+'] | some ['%', '%'] =>
    pick "No current job".toList jobs.head?
  | some ['%', '-'] => pick "No previous job".toList (jobs.drop 1).head?
  | some t =>
    match t with
    | '%' :: rest =>
      match Text.toNat? rest with
      | some n => pick (unknown t) (jobs.find? fun j => j.number == n)
      | none =>
        -- The commands of jobs are not known, so that only an empty beginning matches.
        if rest = ['?'] then
          match jobs with
          | [j] => pure j
          | [] => fail (unknown t)
          | _ => fail (t ++ ": ambiguous".toList)
        else fail (unknown t)
    | t => fail (unknown t)

/-- Tells the state of a job; one that has ended is forgotten. -/
def tell (mode : Option Char) (j : Job) : Run Unit := do
  let m ← get
  let first := (j.processes.head?.map Prod.fst).getD 0
  if mode = some 'p' then answerWith (Text.ofNat first ++ ['\n'])
  else
    let mark :=
      if (m.jobs.head?.map Job.number) == some j.number then '+'
      else if ((m.jobs.drop 1).head?.map Job.number) == some j.number then '-'
      else ' '
    let number := '[' :: Text.ofNat j.number ++ [']', ' ', mark, ' ']
    let process (id : Nat) : Text := if mode = some 'l' then Text.ofNat id ++ [' '] else []
    let line := number ++ process first ++ stateOf j
    let others := if mode = some 'l' then
        (j.processes.drop 1).flatMap fun (id, _) =>
          " |\n".toList ++ List.replicate number.length ' ' ++ Text.ofNat id ++ [' '] ++
            List.replicate (33 - number.length - (Text.ofNat id).length) ' '
      else []
    answerWith (line ++ List.replicate (max 1 (33 - line.length)) ' ' ++ others ++ ['\n'])
  if (endOf j).isSome then
    modify fun m => { m with jobs := m.jobs.filter fun other => other.number != j.number }

/-- Tells the states of jobs. -/
def jobs : Builtin := fun arguments => do
  let (l, names) ← parsed "lp" arguments
  refresh
  let mode := l.getLast?.map Prod.fst
  if names.isEmpty then (← get).jobs.forM (tell mode)
  else
    for name in names do
      tell mode (← jobOf (some name))
  pure 0

/-- Brings a job to the front or lets it go on, which only a shell with job control can. -/
def controlling : Builtin := fun arguments => do
  let (_, names) ← parsed "" arguments
  let name := names.head?
  let _ ← jobOf name
  fail ("job ".toList ++ name.getD "(null)".toList ++ " not created under job control".toList)

/-- Waits until a process has ended or a signal has come, and answers the signal. -/
def awaitEnd (id : Nat) : Run (Option Nat) := do
  let r ← (Prog.await fun w =>
    match w.self.pending with
    | signal :: _ => some (Sum.inl signal, w)
    | [] =>
      match w.collect? id with
      | some (e, w) => some (Sum.inr e, w)
      | none => none : Prog (Sum Nat Ending))
  match r with
  | .inl signal => pure (some signal)
  | .inr e =>
    modify fun m => { m with jobs := noteEndings [(id, e)] m.jobs }
    pure none

/-- Waits for processes up to a signal, and answers it. -/
def awaitEnds : List Nat → Run (Option Nat)
  | [] => pure none
  | id :: rest => do
    match ← awaitEnd id with
    | some signal => pure (some signal)
    | none => awaitEnds rest

/-- Notes that the script knows of the end of a job. -/
def markKnown (number : Nat) : Run Unit :=
  modify fun m => { m with
    jobs := m.jobs.map fun j => if j.number = number then { j with isKnown := true } else j }

/-- Waits for the jobs that arguments name, and answers the status of the last one. -/
def waitFor : List Text → Nat → Run Nat
  | [], status => pure status
  | t :: rest, _ => do
    let job ← if t.head? = some '%' then do pure (some (← jobOf (some t))) else do
      let id ← numberOf t
      pure ((← get).jobs.find? fun j => (j.processes.getLast?.map Prod.fst) == some id)
    match job with
    | none => waitFor rest 127
    | some j =>
      match ← awaitEnds (running j) with
      | some signal => pure (128 + signal)
      | none =>
        markKnown j.number
        let j := ((← get).jobs.find? fun other => other.number == j.number).getD j
        waitFor rest (((endOf j).map statusOf).getD 127)

/-- Waits for jobs, or for all of them. -/
def wait : Builtin := fun arguments => do
  let (_, names) ← parsed "" arguments
  if !names.isEmpty then waitFor names 127
  else
    let ids := (← get).jobs.flatMap running
    match ← awaitEnds ids with
    | some signal => pure (128 + signal)
    | none =>
      modify fun m => { m with jobs := m.jobs.map fun j => { j with isKnown := true } }
      pure 0

/-! ### Signals -/

/-- How the command that sends signals is used. -/
def killUsage : Text :=
  "Usage: kill [-s sigspec | -signum | -sigspec] [pid | job]... or\nkill -l [exitstatus]".toList

/-- Sends a signal to processes. -/
def sendTo (signal : Nat) : List Text → Nat → Run Nat
  | [], status => pure status
  | t :: rest, status => do
    let id? ← match t with
      | '%' :: _ =>
        let _ ← jobOf (some t)
        pure none
      | '-' :: t =>
        let _ ← numberOf t
        pure none
      | t => do pure (some (← numberOf t))
    let isThere ← (Prog.act fun w =>
      match id? with
      | none => (false, w)
      | some id => ((w.task? id).isSome, w.signal id signal) : Prog Bool)
    if isThere then sendTo signal rest status
    else
      report "No such process\n".toList
      sendTo signal rest 1

/-- Sends signals, or tells their names. -/
def kill : Builtin := fun arguments => do
  if arguments.isEmpty then fail killUsage
  let direct := match arguments.head? with
    | some ('-' :: t) => Signal.ofText? 1 t
    | _ => none
  let (l, rest) ← match direct, arguments with
    | some _, _ :: rest => pure ([], rest)
    | _, arguments =>
      if (arguments.head?.bind List.head?) = some '-' then parsed "ls:" arguments
      else pure ([], arguments)
  let lists := l.any fun (c, _) => c == 'l'
  let mut signal := direct
  for (c, t) in l do
    if c = 's' then
      match Signal.ofText? 1 t with
      | some n => signal := some n
      | none => fail ("invalid signal number or name: ".toList ++ t)
  if lists then
    if signal.isSome then fail killUsage
    match rest with
    | [] =>
      answerWith "0\n".toList
      for n in (List.range Signal.count).drop 1 do
        answerWith (Signal.name n ++ ['\n'])
    | t :: _ =>
      let n ← numberOf t
      let n := if n > 128 then n - 128 else n
      if 0 < n && n < Signal.count then answerWith (Signal.name n ++ ['\n'])
      else fail ("invalid signal number or exit status: ".toList ++ t)
    pure 0
  else if rest.isEmpty then fail killUsage
  else sendTo (signal.getD 15) rest 0

/-- Lets the process catch or ignore signals as the actions say. -/
def settleTraps : Run Unit := do
  let m ← get
  let own := m.traps.filter fun (n, _) => n != 0 && !m.deaf.contains n && n != 9 && n != 19
  let caught := (own.filter fun (_, t) => !t.isEmpty).map Prod.fst
  let ignored := (own.filter fun (_, t) => t.isEmpty).map Prod.fst
  (Prog.act fun w => ((), w.updateSelf fun p =>
    { p with caught := caught, ignored := m.deaf ++ ignored }) : Prog Unit)

/-- Sets the action on a signal, or takes it away. -/
def setTrap (signal : Nat) (action : Option Text) : Run Unit := do
  modify fun m =>
    let others := m.traps.filter fun (n, _) => n != signal
    { m with traps := match action with
        | none => others
        | some t => others ++ [(signal, t)] }
  settleTraps

/-- Sets what is done on signals, or tells it. -/
def trap : Builtin := fun arguments => do
  let (_, arguments) ← parsed "" arguments
  match arguments with
  | [] =>
    let traps := (← get).traps
    answerWith ((List.range Signal.count).flatMap fun n =>
      match traps.lookup n with
      | some t => "trap -- ".toList ++ singleQuoted t ++ ' ' :: Signal.name n ++ ['\n']
      | none => [])
    pure 0
  | first :: rest =>
    let takesAll := rest.isEmpty || (Signal.ofNumeral? first).isSome
    let action := if takesAll || first = ['-'] then none else some first
    for t in if takesAll then arguments else rest do
      match Signal.ofText? 0 t with
      | some n => setTrap n action
      | none =>
        put 2 ("trap: ".toList ++ t ++ ": bad trap\n".toList)
        return 1
    pure 0

end Console.Host.Builtin
