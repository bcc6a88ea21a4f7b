import Console.Host.Condition
import Console.Host.Format
import Console.Host.Lookup

/-! Commands that a shell carries out itself. A command gets its arguments and answers a status;
    what it writes goes to the descriptors of the shell. -/

namespace Console.Host

/-- A command of the shell. -/
abbrev Builtin := List Text → Run Nat

namespace Builtin

/-! ### Options -/

/-- The options of one argument behind its hyphen, and the other arguments. Behind a letter that a
    colon follows in the list of letters stands a value. -/
def optionsIn (letters : Text) : Text → List Text → Run (List (Char × Text) × List Text)
  | [], others => pure ([], others)
  | c :: rest, others => do
    match letters.dropWhile (· != c) with
    | _ :: ':' :: _ =>
      match rest, others with
      | [], [] => fail ("No arg for -".toList ++ c :: " option".toList)
      | [], t :: others => pure ([(c, t)], others)
      | rest, others => pure ([(c, rest)], others)
    | _ :: _ =>
      let (l, others) ← optionsIn letters rest others
      pure ((c, []) :: l, others)
    | [] => fail ("Illegal option -".toList ++ [c])

/-- The options in front of the arguments, and the arguments behind them. -/
def options (letters : String) : Nat → List Text → Run (List (Char × Text) × List Text)
  | 0, arguments => pure ([], arguments)
  | fuel + 1, arguments => do
    match arguments with
    | ['-', '-'] :: rest => pure ([], rest)
    | ('-' :: c :: t) :: rest =>
      let (l, rest) ← optionsIn letters.toList (c :: t) rest
      let (more, rest) ← options letters fuel rest
      pure (l ++ more, rest)
    | arguments => pure ([], arguments)

/-- The options of a command and its other arguments. -/
def parsed (letters : String) (arguments : List Text) : Run (List (Char × Text) × List Text) :=
  options letters (arguments.length + 1) arguments

/-! ### Output and conditions -/

/-- Writes its arguments. -/
def echo : Builtin := fun arguments => do
  answerWith (Format.echo arguments)
  pure 0

/-- Writes its arguments as a format says. -/
def printf : Builtin := fun arguments => do
  let (_, arguments) ← parsed "" arguments
  match arguments with
  | [] => fail "usage: printf format [arg ...]".toList
  | format :: arguments =>
    let out := Format.printf format arguments
    out.reports.reverse.forM report
    if let some fault := out.fault then
      report fault.message
      answerWith out.text
      breakOff
    answerWith out.text
    pure (if out.reports.isEmpty then 0 else 1)

/-- Asks whether a condition holds. -/
def test : Builtin := fun arguments => do
  match ← (Prog.see fun w => Condition.holds w 4 arguments : Prog _) with
  | .ok b => pure (if b then 0 else 1)
  | .error e => fail e.message

/-- Asks whether a condition in brackets holds. -/
def bracket : Builtin := fun arguments => do
  if arguments.getLast? = some [']'] then test arguments.dropLast else fail "missing ]".toList

/-! ### Control -/

/-- Ends the shell. The action on a signal goes on with the status before it if it names none. -/
def exit : Builtin := fun arguments => do
  let m ← get
  let status ← match arguments with
    | t :: _ => numberOf t
    | [] => pure (m.savedStatus.getD m.status)
  setStatus status
  throw .exit

/-- Ends the function that runs, or the script. -/
def return_ : Builtin := fun arguments => do
  if let t :: _ := arguments then setStatus (← numberOf t)
  throw .return_

/-- Leaves loops, or goes on with their next turn; outside of loops nothing happens. -/
def breaking (flow : Nat → Flow) : Builtin := fun arguments => do
  let n ← match arguments with
    | [] => pure 1
    | t :: _ => numberOf t
  if n = 0 then fail ("Illegal number: ".toList ++ (arguments.headD []))
  setStatus 0
  let loops := (← get).loops
  if loops > 0 then throw (flow (min n loops)) else pure 0

/-! ### Names -/

/-- Makes aliases, or tells them. -/
def alias_ : Builtin := fun arguments => do
  let line (name value : Text) : Text := name ++ '=' :: singleQuoted value ++ ['\n']
  if arguments.isEmpty then
    answerWith ((inBuckets 39 (← get).aliases).flatMap fun (n, v) => line n v)
  let mut status := 0
  for t in arguments do
    let name := t.take 1 ++ (t.drop 1).takeWhile (· != '=')
    match t.drop name.length with
    | [] =>
      match (← get).aliases.lookup t with
      | some value => answerWith (line t value)
      | none =>
        put 2 ("alias: ".toList ++ t ++ " not found\n".toList)
        status := 1
    | _ :: value => modify fun m => { m with aliases := Entries.put name value m.aliases }
  pure status

/-- Forgets aliases. -/
def unalias : Builtin := fun arguments => do
  let (l, arguments) ← parsed "a" arguments
  if !l.isEmpty then
    modify fun m => { m with aliases := [] }
    pure 0
  else
    let mut status := 0
    for t in arguments do
      if ((← get).aliases.lookup t).isSome then
        modify fun m => { m with aliases := m.aliases.filter fun (n, _) => n != t }
      else
        put 2 ("unalias: ".toList ++ t ++ " not found\n".toList)
        status := 1
    pure status

/-- Looks for commands and remembers where they are, or tells what is remembered. -/
def hash : Builtin := fun arguments => do
  let (l, arguments) ← parsed "r" arguments
  if !l.isEmpty then
    modify fun m => { m with hashed := [] }
    pure 0
  else if arguments.isEmpty then
    answerWith ((inBuckets 31 (← get).hashed).flatMap fun (_, t) => t ++ ['\n'])
    pure 0
  else
    let mut status := 0
    for t in arguments do
      modify fun m => { m with hashed := m.hashed.filter fun (n, _) => n != t }
      match ← findCommand t true (← get).searchPath with
      | .noFile =>
        report (t ++ ": ".toList ++ Found.obstacle .noFile)
        status := 1
      | .missing =>
        report (t ++ ": ".toList ++ Found.obstacle .missing)
        status := 1
      | _ => pure ()
    pure status

/-- Tells what names stand for. -/
def type_ : Builtin := fun arguments => do
  let mut status := 0
  for t in arguments do
    status := Nat.lor status (← describeCommand t (← get).searchPath false)
  pure status

/-- Tells what a name stands for, where no command is to be run. -/
def command : Builtin := fun arguments => do
  let (l, arguments) ← parsed "pvV" arguments
  let m ← get
  let path := if l.any fun (c, _) => c == 'p' then usualPath else m.searchPath
  let isBrief := l.any fun (c, _) => c == 'v'
  let isLong := l.any fun (c, _) => c == 'V'
  match arguments with
  | name :: _ => if isBrief || isLong then describeCommand name path (!isLong) else pure 0
  | [] => pure 0

end Builtin

end Console.Host
