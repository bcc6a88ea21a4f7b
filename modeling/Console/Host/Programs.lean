import Console.Host.Running
import Console.Host.Tool.Asking
import Console.Host.Tool.Awk.Starting
import Console.Host.Tool.Characters
import Console.Host.Tool.Checksum
import Console.Host.Tool.Copy
import Console.Host.Tool.Count
import Console.Host.Tool.Cut
import Console.Host.Tool.Difference.Reading
import Console.Host.Tool.Directories
import Console.Host.Tool.Dump
import Console.Host.Tool.Encoding
import Console.Host.Tool.Expression
import Console.Host.Tool.Find.Walk
import Console.Host.Tool.Identity
import Console.Host.Tool.Layout
import Console.Host.Tool.Listing
import Console.Host.Tool.Numbers
import Console.Host.Tool.Paths
import Console.Host.Tool.Repeated
import Console.Host.Tool.Saying
import Console.Host.Tool.Search
import Console.Host.Tool.Sed.Running
import Console.Host.Tool.Show
import Console.Host.Tool.Sorting
import Console.Host.Tool.Split
import Console.Host.Tool.Starting
import Console.Host.Tool.Times

/-! The shell as a program, the other programs of the system, and how a process becomes one of them:
    the program itself, or for a file of text the one that its first line names. -/

namespace Console.Host

/-! ### The shell -/

/-- What the arguments of a shell ask for. -/
structure Invocation where
  /-- The options that are on. -/
  options : List Char
  /-- Whether the next argument is a script. -/
  takesScript : Bool
  arguments : List Text

namespace Invocation

/-- Takes the options of one argument, and the arguments behind it. -/
def letters (on : Bool) (i : Invocation) : Text → List Text → Except Text (Invocation × List Text)
  | [], rest => .ok (i, rest)
  | c :: cs, rest =>
    let turn (i : Invocation) (c : Char) : Invocation :=
      let others := i.options.filter (· != c)
      { i with options := if on then c :: others else others }
    if c = 'c' then letters on { i with takesScript := true } cs rest
    else if c = 'l' then letters on i cs rest
    else if c = 'o' then
      match rest with
      | [] => letters on i cs []
      | name :: rest =>
        match Builtin.optionNames.find? fun o => o.2.toList == name with
        | some o => letters on (turn i (Builtin.letterOf o)) cs rest
        | none => .error ("Illegal option -o ".toList ++ name)
    else if Builtin.optionNames.any fun o => o.1 == some c then letters on (turn i c) cs rest
    else .error ("Illegal option -".toList ++ [c])

/-- Takes the options in front of the arguments. -/
def options? : Nat → Invocation → Except Text Invocation
  | 0, i => .ok i
  | fuel + 1, i =>
    let go (on : Bool) (t : Text) (rest : List Text) : Except Text Invocation :=
      match letters on { i with arguments := rest } t rest with
      | .error e => .error e
      | .ok (i, rest) => options? fuel { i with arguments := rest }
    match i.arguments with
    | ['-'] :: rest | ['-', '-'] :: rest => .ok { i with arguments := rest }
    | ('-' :: t) :: rest => go true t rest
    | ('+' :: t) :: rest => go false t rest
    | _ => .ok i

/-- What arguments ask for. -/
def ofArguments (arguments : List Text) : Except Text Invocation := do
  let i ← options? (arguments.length + 1) ⟨[], false, arguments⟩
  if !i.arguments.isEmpty then pure i
  else if i.takesScript then throw "-c requires an argument".toList
  else pure { i with options := 's' :: i.options.filter (· != 's') }

end Invocation

/-! ### The first state -/

/-- The variables with which a shell begins. Some of the environment count for nothing. -/
def firstBindings (environment : List (Text × Text)) (parent : Nat) : List (Text × Variable) :=
  let own : List (String × Text) :=
    [("IFS", " \t\n".toList), ("PATH", usualPath), ("PS1", "# ".toList), ("PS2", "> ".toList),
      ("PS4", "+ ".toList), ("OPTIND", ['1'])]
  let bindings := own.map fun (n, t) => (n.toList, (⟨some t, false, false⟩ : Variable))
  let bindings := (environment.filter fun (n, _) => isName n).foldl
    (fun l (n, t) => Entries.put n (⟨some t, true, false⟩ : Variable) l) bindings
  let reset (name : String) (t : Text) (l : List (Text × Variable)) : List (Text × Variable) :=
    let old := (l.lookup name.toList).getD .unset
    Entries.put name.toList { old with value := some t } l
  reset "PPID" (Text.ofNat parent) (reset "OPTIND" ['1'] (reset "IFS" " \t\n".toList bindings))

/-- The directory as the environment names it, if that is the directory of the process. -/
def firstDirectory (w : Kernel) (environment : List (Text × Text)) : Text :=
  let here := w.self.directory
  match environment.lookup "PWD".toList with
  | some t =>
    if t.head? = some '/' && w.files.find? here t = some here then t else w.files.pathOf here
  | none => w.files.pathOf here

/-- The state in which a shell begins. -/
def firstMachine (start : Start) (call : Call) (w : Kernel) : Machine where
  start := start
  name := call.name
  commandName := none
  shellId := w.current
  line := 0
  readLine := 0
  bindings := Entries.put "PWD".toList ⟨some (firstDirectory w call.environment), true, false⟩
    (firstBindings call.environment w.self.parent)
  parameters := []
  optionOffset := none
  optionIndex := 1
  status := 0
  innerStatus := 0
  savedStatus := none
  loops := 0
  calls := 0
  scopes := []
  functions := []
  aliases := []
  options := []
  traps := []
  deaf := w.self.ignored
  jobs := []
  lastJob := none
  directory := firstDirectory w call.environment
  hashed := []
  documents := []
  nextDocument := 0
  frames := []
  isPrompting := false
  hasLost := false

/-! ### Scripts -/

/-- Runs a script that is read from somewhere. -/
def runScript (fuel : Nat) (text : Text) : Run Unit := do
  let m ← get
  match ← Run.attempt (runLines fuel .plain true (.ofText text m.aliases m.nextDocument) none) with
  | .ok () | .error .return_ => pure ()
  | .error flow => throw flow

/-- Runs what the arguments ask for. -/
def runInvocation (fuel : Nat) (i : Invocation) : Run Unit := do
  modify fun m => { m with options := i.options }
  let readsInput := i.options.contains 's'
  match i.takesScript, i.arguments with
  | true, script :: rest =>
    modify fun m => { m with name := rest.headD m.name, parameters := rest.drop 1 }
    let r ← Run.attempt (runText fuel ⟨false, !readsInput⟩ script)
    match r with
    | .ok () | .error .return_ => pure ()
    | r => Run.resume r
    if readsInput then
      let read ← (Prog.readAll 0 : Prog _)
      runScript fuel (read.toOption.getD [])
  | _, arguments =>
    match readsInput, arguments with
    | false, file :: rest =>
      match ← (Prog.open_ 10 file .reading 0 : Prog _) with
      | .error e => fail (Redirected.message file .reading e)
      | .ok d =>
        let read ← (Prog.readAll d : Prog _)
        (Prog.close d : Prog Unit)
        modify fun m => { m with name := file, parameters := rest }
        runScript fuel (read.toOption.getD [])
    | _, arguments =>
      modify fun m => { m with parameters := arguments }
      let read ← (Prog.readAll 0 : Prog _)
      runScript fuel (read.toOption.getD [])

/-- How many steps a script may take. -/
def patience : Nat := 1000000000000

/-- The shell. -/
def shell : Program := fun start call => do
  let m ← Prog.see (firstMachine start call)
  let body : Run Unit :=
    match Invocation.ofArguments call.arguments with
    | .error message => fail message
    | .ok i => runInvocation patience i
  fun _ => toEnd patience body m Run.ending

/-! ### All programs -/

/-- The programs by their names. -/
def programs : List (String × Program) :=
  [("[", Tool.bracket), ("awk", Tool.awk), ("base64", Tool.base64), ("basename", Tool.basename),
    ("cat", Tool.cat), ("chgrp", Tool.chgrp), ("chmod", Tool.chmod), ("chown", Tool.chown),
    ("cksum", Tool.cksum), ("cmp", Tool.cmp), ("comm", Tool.comm), ("cp", Tool.cp),
    ("cut", Tool.cut), ("dash", shell), ("date", Tool.date), ("diff", Tool.diff),
    ("dirname", Tool.dirname), ("echo", Tool.echo), ("egrep", Tool.egrep), ("env", Tool.env),
    ("expand", Tool.expand), ("expr", Tool.expr), ("factor", Tool.factor), ("false", Tool.false_),
    ("fgrep", Tool.fgrep), ("find", Tool.find), ("fold", Tool.fold), ("grep", Tool.grep),
    ("head", Tool.head), ("id", Tool.id_), ("join", Tool.join), ("kill", Tool.kill),
    ("link", Tool.link), ("ln", Tool.ln), ("logname", Tool.logname), ("ls", Tool.ls),
    ("mawk", Tool.awk), ("md5sum", Tool.md5sum), ("mkdir", Tool.mkdir), ("mkfifo", Tool.mkfifo),
    ("mktemp", Tool.mktemp), ("mv", Tool.mv), ("nawk", Tool.awk), ("nice", Tool.nice),
    ("nl", Tool.nl), ("nohup", Tool.nohup), ("od", Tool.od), ("paste", Tool.paste),
    ("printenv", Tool.printenv), ("printf", Tool.printf), ("pwd", Tool.pwd),
    ("readlink", Tool.readlink), ("realpath", Tool.realpath), ("rev", Tool.rev), ("rm", Tool.rm),
    ("rmdir", Tool.rmdir), ("sed", Tool.sed), ("seq", Tool.seq), ("sh", shell),
    ("sha1sum", Tool.sha1sum), ("sha256sum", Tool.sha256sum), ("sha512sum", Tool.sha512sum),
    ("sleep", Tool.sleep), ("sort", Tool.sort), ("split", Tool.split), ("stat", Tool.stat),
    ("tac", Tool.tac), ("tail", Tool.tail), ("tee", Tool.tee), ("test", Tool.test),
    ("timeout", Tool.timeout), ("touch", Tool.touch), ("tr", Tool.tr), ("true", Tool.true_),
    ("truncate", Tool.truncate), ("tsort", Tool.tsort), ("tty", Tool.tty), ("uname", Tool.uname),
    ("unexpand", Tool.unexpand), ("uniq", Tool.uniq), ("unlink", Tool.unlink), ("wc", Tool.wc),
    ("which", Tool.which), ("whoami", Tool.whoami), ("xargs", Tool.xargs), ("yes", Tool.yes)]

/-- The program and the argument that the first line of a file names. -/
def interpreter? (bytes : ByteArray) : Option (Text × List Text) :=
  match Octets.ofBytes (bytes.extract 0 256) with
  | '#' :: '!' :: t =>
    let isSpace (c : Char) : Bool := c == ' ' || c == '\t'
    let line := (t.takeWhile (· != '\n')).dropWhile isSpace
    let path := line.takeWhile fun c => !isSpace c
    let rest := (line.drop path.length).dropWhile isSpace
    let argument := (rest.reverse.dropWhile isSpace).reverse
    some (path, if argument.isEmpty then [] else [argument])
  | _ => none

/-- What can be run at a path: a program by its name, or a file by its bytes. -/
def runnableAt (files : Files) (base : Nat) (path : Text) :
    Except Files.Fault (Sum Text ByteArray) := do
  let n ← files.locate base path true
  match files.node? n with
  | some ⟨.program name, _, _⟩ => pure (.inl name)
  | some ⟨.file bytes, mode, _⟩ =>
    if Nat.land mode 0o111 = 0 then throw .accessDenied else pure (.inr bytes)
  | _ => throw .accessDenied

/-- What a process keeps of itself when it becomes another program: the descriptors that scripts can
    name, and the signals that it ignores. -/
def shed (w : Kernel) : Kernel :=
  (w.updateSelf fun p => { p with caught := [] }).setDescriptors
    (w.self.descriptors.filter fun (d, _) => d < 10)

/-- Becomes the program at a path. Each program can become others, so many levels deep. -/
def execute : Nat → Start
  | 0, _, _ => pure (.error .tooManyLinks)
  | fuel + 1, path, call => do
    match ← Prog.look fun files base => runnableAt files base path with
    | .error e => pure (.error e)
    | .ok (.inl name) =>
      match programs.lookup (String.ofList name) with
      | none => pure (.error .notFound)
      | some program =>
        Prog.act fun w => ((), shed w)
        let status ← program (execute fuel) call
        pure (.ok status)
    | .ok (.inr bytes) =>
      match interpreter? bytes with
      | some (program, argument) =>
        execute fuel program
          { call with name := program, arguments := argument ++ path :: call.arguments }
      | none =>
        let sh := "/bin/sh".toList
        execute fuel sh { call with name := sh, arguments := path :: call.arguments }

/-- How deep programs can become others. -/
def deepestStart : Nat := 1000000

end Console.Host
