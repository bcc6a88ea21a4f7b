import Console.Host.Machine

/-! Finding commands: what the name of a command stands for, and how a text is quoted. Functions
    come before the commands of the shell itself, and these before the files in the directories of
    `PATH`. Files that have been found are remembered. -/

namespace Console.Host

/-! ### Quoting -/

/-- The text from a run of other characters on, so many runs at most. -/
def quotedRuns : Nat → Text → Text
  | 0, _ => []
  | fuel + 1, t =>
    let plain := t.takeWhile (· != '\'')
    let rest := t.drop plain.length
    let quotes := rest.takeWhile (· == '\'')
    let rest := rest.drop quotes.length
    let double : Text := if quotes.isEmpty then [] else '"' :: quotes ++ ['"']
    '\'' :: plain ++ '\'' :: double ++ (if rest.isEmpty then [] else quotedRuns fuel rest)

/-- A text in quotes. -/
def singleQuoted (t : Text) : Text := quotedRuns (t.length + 1) t

/-! ### Names of commands -/

/-- The commands of the shell besides those whose failures end the script. -/
def builtinNames : List Text :=
  ["[", "alias", "bg", "cd", "chdir", "command", "echo", "false", "fg", "getopts", "hash", "jobs",
    "kill", "printf", "pwd", "read", "test", "true", "type", "ulimit", "umask", "unalias",
    "wait"].map String.toList

/-- Whether a name is that of a command of the shell itself. -/
def isBuiltin (name : Text) : Bool := specialNames.contains name || builtinNames.contains name

/-- What a name stands for. -/
inductive Found where
  | function (body : Command)
  | builtin
  | file (path : Text)
  /-- There is something, but no file. -/
  | noFile
  | missing

namespace Machine

/-- Where commands are looked for. -/
def searchPath (m : Machine) : Text := (m.value? "PATH".toList).getD []

/-- Finds a file in directories. -/
def findFile (w : Kernel) (path name : Text) : Found :=
  let base := w.self.directory
  let paths := candidates path name
  match paths.find? fun t => (w.files.find? base t).any w.files.isFile with
  | some t => .file t
  | none => if paths.any fun t => (w.files.find? base t).isSome then .noFile else .missing

/-- Finds what a name stands for, without functions if that is asked for. -/
def find (m : Machine) (w : Kernel) (name : Text) (functions : Bool) (path : Text) : Found :=
  if name.elem '/' then .file name
  else
    match if functions then m.functions.lookup name else none with
    | some body => .function body
    | none =>
      if isBuiltin name then .builtin
      else
        match if path = m.searchPath then m.hashed.lookup name else none with
        | some t => .file t
        | none => findFile w path name

end Machine

/-- Finds what a name stands for, and remembers the file. -/
def findCommand (name : Text) (functions : Bool) (path : Text) : Run Found := do
  let m ← get
  match ← (Prog.see fun w => m.find w name functions path : Prog Found) with
  | .file t =>
    if !name.elem '/' && path = m.searchPath then
      modify fun m => { m with hashed := Entries.put name t m.hashed }
    pure (.file t)
  | found => pure found

/-- Why a name stands for nothing. -/
def Found.obstacle : Found → Text
  | .noFile => Files.Fault.accessDenied.wording
  | _ => "not found".toList

/-- Says what a name is, briefly or in words, and answers the status. -/
def describeCommand (name path : Text) (brief : Bool) : Run Nat := do
  let m ← get
  let answer (words : String) : Run Nat := do
    answerWith (if brief then name ++ ['\n'] else name ++ words.toList ++ ['\n'])
    pure 0
  if reserved.contains name then answer " is a shell keyword"
  else if let some value := m.aliases.lookup name then
    answerWith (if brief then "alias ".toList ++ name ++ '=' :: singleQuoted value ++ ['\n']
      else name ++ " is an alias for ".toList ++ value ++ ['\n'])
    pure 0
  else
    let isKnown := (m.hashed.lookup name).isSome
    let missing : Run Nat := do
      if !brief then answerWith (name ++ ": not found\n".toList)
      pure 127
    match ← findCommand name true path with
    | .function _ => answer " is a shell function"
    | .builtin =>
      answer (if specialNames.contains name then " is a special shell builtin"
        else " is a shell builtin")
    | .file t =>
      let isThere ← (Prog.look fun files base => (files.find? base t).isSome : Prog Bool)
      if name.elem '/' && !isThere then missing
      else
        let words := if isKnown then " is a tracked alias for " else " is "
        answerWith (if brief then t ++ ['\n'] else name ++ words.toList ++ t ++ ['\n'])
        pure 0
    | _ => missing

end Console.Host
