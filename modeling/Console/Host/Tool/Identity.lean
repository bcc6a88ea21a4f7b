import Console.Host.Tool.Work

/-! Tools that tell who uses the system and what it is, where commands are, and what processes there
    are to send signals to. -/

namespace Console.Host.Tool

open Work

/-- The users and their groups, with the numbers of both. -/
def users : List (String × Nat × String × Nat) :=
  [("root", 0, "root", 0), ("daemon", 1, "daemon", 1), ("bin", 2, "bin", 2), ("sys", 3, "sys", 3),
    ("sync", 4, "nogroup", 65534), ("games", 5, "games", 60), ("man", 6, "man", 12),
    ("lp", 7, "lp", 7), ("mail", 8, "mail", 8), ("news", 9, "news", 9), ("uucp", 10, "uucp", 10),
    ("proxy", 13, "proxy", 13), ("www-data", 33, "www-data", 33), ("backup", 34, "backup", 34),
    ("list", 38, "list", 38), ("irc", 39, "irc", 39), ("nobody", 65534, "nogroup", 65534)]

/-- The user of a name or a number. -/
def userOf? (t : Text) : Option (String × Nat × String × Nat) :=
  users.find? fun (name, n, _) => name.toList == t || Text.toNat? t == some n

/-- Refuses operands. -/
def noOperands (g : Given) : Work Unit :=
  match g.operands with
  | [] => pure ()
  | t :: _ => misuse ("extra operand ".toList ++ quoted t)

/-- Tells who a user is. -/
def identify (g : Given) (user : String × Nat × String × Nat) : Work Unit := do
  let (name, n, group, groupNumber) := user
  let named := g.has "name"
  let ending := if g.has "zero" then '\x00' else '\n'
  let person := if named then name.toList else Text.ofNat n
  let crew := if named then group.toList else Text.ofNat groupNumber
  if g.has "user" then say (person ++ [ending])
  else if g.has "group" || g.has "groups" then say (crew ++ [ending])
  else
    let both (n : Nat) (name : String) : Text := Text.ofNat n ++ '(' :: name.toList ++ [')']
    sayLine ("uid=".toList ++ both n name ++ " gid=".toList ++ both groupNumber group ++
      " groups=".toList ++ both groupNumber group)

/-- Tells who somebody is. -/
def id_ : Program :=
  toolOf usualManner
    [flag 'a' "", flag 'Z' "context", flag 'g' "group", flag 'G' "groups", flag 'n' "name",
      flag 'r' "real", flag 'u' "user", flag 'z' "zero"]
    fun g => do
      let choices := ["user", "group", "groups"].filter g.has
      if g.has "context" then
        giveUp "--context (-Z) works only on an SELinux-enabled kernel".toList
      if choices.length > 1 then giveUp "cannot print \"only\" of more than one choice".toList
      if choices.isEmpty && (g.has "name" || g.has "real") then
        giveUp "cannot print only names or real IDs in default format".toList
      if choices.isEmpty && g.has "zero" then
        giveUp "option --zero not permitted in default format".toList
      let named := if g.operands.isEmpty then ["root".toList] else g.operands
      named.forM fun t =>
        match userOf? t with
        | some user => identify g user
        | none => complain 1 (quoted t ++ ": no such user".toList)

/-- Tells the name of the user. -/
def whoami : Program :=
  toolOf usualManner [] fun g => do
    noOperands g
    sayLine "root".toList

/-- Tells the name under which somebody has logged in, which nobody has. -/
def logname : Program :=
  toolOf usualManner [] fun g => do
    noOperands g
    giveUp "no login name".toList

/-- Tells the terminal, of which there is none. -/
def tty : Program :=
  toolOf (mannerOf 2) [flag 's' "silent", named "quiet" .nothing] fun g => do
    noOperands g
    if !g.has "silent" && !g.has "quiet" then sayLine "not a tty".toList
    atLeast 1

/-! ### The system -/

/-- What can be told of the system, by options in the order in which it is told. -/
def systemParts : List (String × String) :=
  [("kernel-name", "Linux"), ("nodename", "localhost"), ("kernel-release", "6.1.0"),
    ("kernel-version", "#1 SMP"), ("machine", "x86_64"), ("processor", "x86_64"),
    ("hardware-platform", "x86_64"), ("operating-system", "GNU/Linux")]

/-- Tells what the system is. -/
def uname : Program :=
  toolOf usualManner
    [flag 'a' "all", flag 's' "kernel-name", flag 'n' "nodename", flag 'r' "kernel-release",
      flag 'v' "kernel-version", flag 'm' "machine", flag 'p' "processor",
      flag 'i' "hardware-platform", flag 'o' "operating-system"]
    fun g => do
      noOperands g
      let isAsked (key : String) : Bool :=
        g.has "all" || g.has key || (g.options.isEmpty && key == "kernel-name")
      sayLine (Text.join [' '] ((systemParts.filter fun (k, _) => isAsked k).map fun (_, t) =>
        t.toList))

/-! ### Commands and processes -/

/-- Tells where commands are. -/
def which : Program :=
  tool (mannerOf 2) fun arguments => do
    let isOption (t : Text) : Bool := t.head? == some '-' && t.length > 1 && t != "--".toList
    let options := arguments.takeWhile isOption
    let letters := options.flatMap fun t => t.drop 1
    match letters.find? fun c => c != 'a' && c != 's' with
    | some c =>
      step (Prog.put 2 ("Illegal option -".toList ++ [c, '\n']))
      say "Usage: /usr/bin/which [-as] args\n".toList
      stop 2
    | none => pure ()
    let rest := arguments.drop options.length
    let commands := if rest.head? = some "--".toList then rest.drop 1 else rest
    if commands.isEmpty then atLeast 1
    let path := ((← get).call.variable_ "PATH").getD usualPath
    commands.forM fun command => do
      let found ← step (Prog.look fun fs base => (candidates path command).filter fun t =>
        ((fs.find? base t).bind fs.node?).any fun node =>
          !node.isDirectory && Nat.land node.mode 0o111 != 0)
      let found := if letters.elem 'a' then found else found.take 1
      if found.isEmpty then atLeast 1
      else if !letters.elem 's' then found.forM sayLine

/-- Tells the directory in which the tool runs. -/
def pwd : Program :=
  toolOf usualManner [flag 'L' "logical", flag 'P' "physical"] fun g => do
    if !g.operands.isEmpty then complain 0 "ignoring non-option arguments".toList
    sayLine (← step (Prog.look fun fs base => fs.pathOf base))

/-- The names of the signals that a list of them shows. -/
def listedSignals : List Text :=
  ((List.range 32).drop 1).map fun n =>
    if n = 16 then "STKFLT".toList else if n = 29 then "POLL".toList else Signal.name n

/-- Puts words into lines of a width. -/
def wordLines (width : Nat) : Text → List Text → List Text
  | line, [] => if line.isEmpty then [] else [line]
  | line, w :: rest =>
    if line.isEmpty then wordLines width w rest
    else if line.length + 1 + w.length > width then line :: wordLines width w rest
    else wordLines width (line ++ ' ' :: w) rest

/-- Sends signals to processes, or tells the names of signals. -/
def kill : Program :=
  tool usualManner fun arguments => do
    let numbered (t : Text) : Option Nat :=
      Signal.ofText? 0 (("SIG".toList.isPrefixOf? t).getD t)
    let send (signal : Nat) (processes : List Text) : Work Unit :=
      processes.forM fun t =>
        match Text.toNat? t with
        | none => giveUp ("failed to parse argument: ".toList ++ quoted t)
        | some n => do
          let isThere ← step (Prog.act fun w => (w.isAlive n, w.signal n signal))
          if !isThere then complain 1 ('(' :: t ++ "): No such process".toList)
    match arguments with
    | ['-', 'l'] :: [] => (wordLines 76 [] listedSignals).forM sayLine
    | ['-', 'l'] :: t :: _ =>
      match Text.toNat? t, numbered t with
      | some n, _ => sayLine (Signal.name (if n > 128 then n - 128 else n))
      | none, some n => sayLine (Text.ofNat n)
      | none, none => giveUp ("unknown signal name ".toList ++ t)
    | ['-', 's'] :: t :: rest =>
      match numbered t with
      | some n => send n rest
      | none => rest.forM fun p => complain 1 ('(' :: p ++ "): Invalid argument".toList)
    | ('-' :: c :: t) :: rest =>
      match numbered (c :: t) with
      | some n => send n rest
      | none => misuse ("invalid option -- '".toList ++ [c, '\''])
    | l => send 15 l

end Console.Host.Tool
