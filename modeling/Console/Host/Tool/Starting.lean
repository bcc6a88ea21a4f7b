import Console.Host.Format
import Console.Host.Tool.Work

/-! Starting of other programs by a tool: in its place, or in a process of their own. -/

namespace Console.Host.Tool

open Work

/-- Becomes another program. If there is none, that is reported under the name of the tool. -/
def become (report : Text → Files.Fault → Text) (words : List Text)
    (environment : List (Text × Text)) : Work Unit := do
  flush
  match words with
  | [] => pure ()
  | command :: arguments =>
    let desk ← get
    match ← step (startNamed desk.start ⟨command, arguments, environment⟩) with
    | .ok status => step (Prog.exit status)
    | .error e =>
      mutter (report command e)
      step (Prog.exit (startStatus e))

/-- How a command that cannot be started is reported. -/
def notStarted (command : Text) (e : Files.Fault) : Text :=
  quotedName command ++ ": ".toList ++ e.wording

/-- Runs a command in a process of its own, after some preparation, and answers the process. -/
def launch (prepare : Work Unit) (report : Text → Files.Fault → Text) (words : List Text)
    (environment : List (Text × Text)) : Work Nat := do
  flush
  let desk ← get
  let child : Work Unit := do
    prepare
    become report words environment
  step (Prog.fork fun next => child desk fun _ => next 0)

/-- Runs a command in a process of its own, and answers how that has ended. -/
def runCommand (prepare : Work Unit) (report : Text → Files.Fault → Text) (words : List Text)
    (environment : List (Text × Text)) : Work Ending := do
  let id ← launch prepare report words environment
  step (Prog.collect id)

/-- Starts a command whose output can be read, or whose input can be written, and answers its
    process and the descriptor for that. -/
def launchPiped (reads : Bool) (report : Text → Files.Fault → Text) (words : List Text)
    (environment : List (Text × Text)) : Work (Nat × Nat) := do
  let (source, sink) ← step (Prog.act fun w =>
    let (pipe, w) := w.addPipe false
    let source := w.freeDescriptor 3
    let w := w.connectTo source (Kernel.sourceOf pipe)
    let sink := w.freeDescriptor 3
    ((source, sink), w.connectTo sink (Kernel.sinkOf pipe)))
  let (theirs, own, standard) := if reads then (sink, source, 1) else (source, sink, 0)
  let prepare : Work Unit := do
    step (Prog.act fun w =>
      ((), match w.openingNumber? theirs with
        | some n => w.connect standard n
        | none => w))
    step (Prog.close source)
    step (Prog.close sink)
  let id ← launch prepare report words environment
  step (Prog.close theirs)
  pure (id, own)

/-- Runs a command, and answers what it writes and how it has ended. -/
def capture (words : List Text) (environment : List (Text × Text)) : Work (Text × Ending) := do
  let (id, source) ← launchPiped true (fun c e => c ++ ": ".toList ++ e.wording) words environment
  let t ← readAll source
  step (Prog.close source)
  pure (t.toOption.getD [], ← step (Prog.collect id))

/-- The status that stands for an ending. -/
def endingStatus (e : Ending) : Nat :=
  match e with
  | .exited n => n
  | .killed n => 128 + n

/-- The environment of the tool. -/
def environment : Work (List (Text × Text)) := do pure (← get).call.environment

/-- Lets the input of the tool be empty. -/
def withoutInput : Work Unit := do
  step (Prog.close 0)
  let _ ← step (Prog.open_ 0 "/dev/null".toList .reading 0)

/-! ### Environments -/

/-- Sets a variable of an environment. -/
def withVariable (e : List (Text × Text)) (name value : Text) : List (Text × Text) :=
  if e.any fun (n, _) => n == name then
    e.map fun (n, v) => if n == name then (n, value) else (n, v)
  else e ++ [(name, value)]

/-- The name and the value of an assignment. -/
def assignment? (t : Text) : Option (Text × Text) :=
  if t.elem '=' then
    let name := t.takeWhile (· != '=')
    some (name, t.drop (name.length + 1))
  else none

/-- The words of a text that stand for arguments, where quotes and backslashes hide blanks. -/
def wordsIn : Nat → Option Text → Option Char → Text → List Text
  | 0, _, _, _ => []
  | _ + 1, word, _, [] => word.toList.map List.reverse
  | fuel + 1, word, quote, c :: rest =>
    let add (c : Char) : Option Text := some (c :: word.getD [])
    match quote with
    | some q =>
      if c = q then wordsIn fuel (some (word.getD [])) none rest
      else if c = '\\' && q = '"' then
        wordsIn fuel (rest.head?.bind fun d => add d) quote (rest.drop 1)
      else wordsIn fuel (add c) quote rest
    | none =>
      if c = ' ' || c = '\t' || c = '\n' then
        word.toList.map List.reverse ++ wordsIn fuel none none rest
      else if c = '\'' || c = '"' then wordsIn fuel (some (word.getD [])) (some c) rest
      else if c = '\\' then wordsIn fuel (rest.head?.bind fun d => add d) none (rest.drop 1)
      else wordsIn fuel (add c) none rest

/-- The options of `env`. -/
def envSwitches : List Switch :=
  [flag 'i' "ignore-environment", flag '0' "null", valued 'u' "unset", valued 'C' "chdir",
    valued 'S' "split-string", flag 'v' "debug", named "default-signal" .maybe,
    named "ignore-signal" .maybe, named "block-signal" .maybe]

/-- Shows the environment, or runs a command with another one. -/
def env : Program :=
  tool (mannerOf 125) fun arguments => do
    let arguments := match arguments with
      | ('-' :: 'S' :: t) :: rest =>
        if t.isEmpty then
          match rest with
          | u :: rest => wordsIn (u.length + 1) none none u ++ rest
          | [] => arguments
        else wordsIn (t.length + 1) none none t ++ rest
      | l => l
    match (Grammar.strict envSwitches).read arguments with
    | .error e => misuse e
    | .ok g =>
      let (clears, words) := match g.operands with
        | ['-'] :: rest => (true, rest)
        | l => (g.has "ignore-environment", l)
      let e ← if clears then pure [] else environment
      let bad := (g.all "unset").find? fun n => n.isEmpty || n.elem '='
      match bad with
      | some n => giveUp ("cannot unset ".toList ++ quoted n ++ ": Invalid argument".toList)
      | none => pure ()
      let e := e.filter fun (n, _) => !(g.all "unset").contains n
      let assignments := words.takeWhile fun t => t.elem '='
      let command := words.drop assignments.length
      let e := (assignments.filterMap assignment?).foldl (fun e (n, v) => withVariable e n v) e
      match g.last? "chdir" with
      | none => pure ()
      | some d =>
        if command.isEmpty then misuse "must specify command with --chdir (-C)".toList
        match ← step (Prog.look fun fs base => fs.locate base d true) with
        | .ok n => step (Prog.act fun w => ((), w.updateSelf fun t => { t with directory := n }))
        | .error e =>
          giveUp ("cannot change directory to ".toList ++ quotedName d ++ ": ".toList ++ e.wording)
      if command.isEmpty then
        e.forM fun (n, v) => say (n ++ '=' :: v ++ [if g.has "null" then '\x00' else '\n'])
      else if g.has "null" then misuse "cannot specify --null (-0) with command".toList
      else become notStarted command e

/-- Shows variables of the environment. -/
def printenv : Program :=
  strictToolOf (mannerOf 2) [flag '0' "null"] fun g => do
    let e ← environment
    let ending := if g.has "null" then '\x00' else '\n'
    if g.operands.isEmpty then
      e.forM fun (n, v) => say (n ++ '=' :: v ++ [ending])
    else
      g.operands.forM fun n =>
        match if n.elem '=' then none else e.lookup n with
        | some v => say (v ++ [ending])
        | none => atLeast 1

/-! ### Commands under conditions -/

/-- Runs a command with less urgency, of which only the number is known. -/
def nice : Program :=
  tool (mannerOf 125) fun arguments => do
    let arguments := match arguments with
      | ('-' :: t) :: rest =>
        let (_, digits) := Numeral.sign t
        if !digits.isEmpty && digits.all Char.isDigit then ['-', 'n'] :: t :: rest else arguments
      | l => l
    match (Grammar.strict [valued 'n' "adjustment"]).read arguments with
    | .error e => misuse e
    | .ok g =>
      let n ← match g.last? "adjustment" with
        | none => pure 10
        | some t =>
          match Numeral.integer? 10 t with
          | some (n, []) => pure n
          | _ => giveUp ("invalid adjustment ".toList ++ quoted t)
      let e ← environment
      let key := "NICE_LEVEL".toList
      let level : Int := ((e.lookup key).bind fun t => (Numeral.integer? 10 t).map Prod.fst).getD 0
      let isAsked := g.has "adjustment"
      match g.operands with
      | [] =>
        if isAsked then misuse "a command must be given with an adjustment".toList
        else sayLine (Text.ofInt level)
      | words => become notStarted words (withVariable e key (Text.ofInt (min 19 (level + n))))

/-- Runs a command on which the end of the session has no effect. -/
def nohup : Program :=
  strictToolOf (mannerOf 125) [] fun g => do
    if g.operands.isEmpty then misuse "missing operand".toList
    step (Prog.act fun w => ((), w.updateSelf fun t => { t with ignored := 1 :: t.ignored }))
    become (fun c e => "failed to run command ".toList ++ notStarted c e) g.operands (← environment)

/-- The nanoseconds of an interval of seconds, minutes, hours or days. -/
def interval? (t : Text) : Option Nat := do
  let (x, rest) ← Numeral.real? .double t
  let unit ← match rest with
    | [] | ['s'] => pure 1
    | ['m'] => pure 60
    | ['h'] => pure 3600
    | ['d'] => pure 86400
    | _ => none
  let most := 1000000000 * 1000000000
  match x with
  | .finite negative m e =>
    if negative && m > 0 then none
    else
      let n := m * unit * 1000000000 * twoTo (min e 100).toNat
      pure (min most (n / twoTo (-e).toNat))
  | .infinite false => pure most
  | _ => none

/-- Lets time pass. -/
def sleep : Program :=
  toolOf usualManner [] fun g => do
    if g.operands.isEmpty then misuse "missing operand".toList
    let bad := g.operands.filter fun t => (interval? t).isNone
    if !bad.isEmpty then
      bad.forM fun t => mutter ("invalid time interval ".toList ++ quoted t)
      step (Prog.put 2 (helpHint (← name)))
      stop 1
    step (Prog.sleep (g.operands.foldl (fun n t => n + (interval? t).getD 0) 0))

/-- Runs a command and ends it if it takes too long. -/
def timeout : Program :=
  strictToolOf (mannerOf 125)
    [named "preserve-status" .nothing, named "foreground" .nothing, valued 'k' "kill-after",
      valued 's' "signal", flag 'v' "verbose"]
    fun g => do
      let interval (t : Text) : Work Nat := do
        match interval? t with
        | some n => pure n
        | none => misuse ("invalid time interval ".toList ++ quoted t)
      let grace ← match g.last? "kill-after" with
        | some t => do pure (some (← interval t))
        | none => pure none
      let signal ← match g.last? "signal" with
        | none => pure 15
        | some t =>
          match Signal.ofText? 0 t with
          | some n => pure n
          | none => misuse (quoted t ++ ": invalid signal".toList)
      match g.operands with
      | [] | [_] =>
        step (Prog.put 2 (helpHint (← name)))
        stop 125
      | t :: words =>
        let limit ← interval t
        let report (c : Text) (e : Files.Fault) : Text :=
          "failed to run command ".toList ++ notStarted c e
        let id ← launch (pure ()) report words (← environment)
        let clock : Prog Nat := do
          Prog.sleep limit
          let isLate ← Prog.see fun w => w.isAlive id
          Prog.act fun w => ((), w.signal id signal)
          match grace with
          | some n =>
            Prog.sleep n
            Prog.act fun w => ((), w.signal id Kernel.killSignal)
          | none => pure ()
          pure (if isLate then 1 else 0)
        let watch ← if limit = 0 then pure none else do pure (some (← step (Prog.fork clock)))
        let ending ← step (Prog.collect id)
        let isLate ← match watch with
          | none => pure false
          | some clock => do
            match ending with
            | .killed n =>
              let isKilled := n = Kernel.killSignal && grace.isSome
              if n = signal || isKilled || signal = Kernel.killSignal then
                pure (n = signal || grace.isSome)
              else pure false
            | .exited _ => do
              let ended ← step (Prog.see fun w => !w.isAlive clock)
              pure ended
        match watch with
        | some clock => step (Prog.act fun w => ((), w.signal clock Kernel.killSignal))
        | none => pure ()
        if isLate && !g.has "preserve-status" then
          if signal = Kernel.killSignal || ending == .killed Kernel.killSignal then
            step (Prog.act fun w => ((), w.signal w.current Kernel.killSignal))
          stop 124
        else stop (endingStatus ending)

/-! ### Commands for many arguments -/

/-- How input is taken apart into arguments. -/
inductive Separation where
  | blanks
  | lines
  | character (c : Char)
  deriving DecidableEq, Repr

/-- An argument of the input, and whether its line ends behind it. -/
structure Item where
  text : Text
  endsLine : Bool

/-- The arguments of a text in which blanks separate and quotes hide them, up to a quote that is not
    closed. -/
def blankItems : Nat → Option Text → Option Char → Text → List Item × Option Char
  | 0, _, _, _ => ([], none)
  | _ + 1, word, quote, [] =>
    match quote with
    | some q => ([], some q)
    | none => (word.toList.map fun w => ⟨w.reverse, true⟩, none)
  | fuel + 1, word, quote, c :: rest =>
    let add (c : Char) : Option Text := some (c :: word.getD [])
    let behind (endsLine : Bool) : List Item × Option Char :=
      let (l, open_) := blankItems fuel none none rest
      (word.toList.map (fun w => ⟨w.reverse, endsLine⟩) ++ l, open_)
    match quote with
    | some q =>
      if c = q then blankItems fuel (some (word.getD [])) none rest
      else if c = '\n' then ([], some q)
      else blankItems fuel (add c) quote rest
    | none =>
      if c = '\n' then behind true
      else if c = ' ' || ('\t' ≤ c && c ≤ '\r') then behind false
      else if c = '\'' || c = '"' then blankItems fuel (some (word.getD [])) (some c) rest
      else if c = '\\' then
        match rest with
        | d :: rest => blankItems fuel (add d) none rest
        | [] => blankItems fuel word none []
      else blankItems fuel (add c) none rest

/-- A line in which quotes and backslashes count, or the quote that it leaves open. -/
def plainLine : Nat → Option Char → Text → Text → Except Char Text
  | 0, _, done, _ => .ok done.reverse
  | _ + 1, none, done, [] => .ok done.reverse
  | _ + 1, some q, _, [] => .error q
  | fuel + 1, none, done, '\\' :: c :: rest => plainLine fuel none (c :: done) rest
  | fuel + 1, none, done, c :: rest =>
    if c = '\'' || c = '"' then plainLine fuel (some c) done rest
    else plainLine fuel none (c :: done) rest
  | fuel + 1, some q, done, c :: rest =>
    if c = q then plainLine fuel none done rest else plainLine fuel (some q) (c :: done) rest

/-- The lines of a text without blanks in front, in which quotes and backslashes count, up to a
    quote that is not closed. -/
def lineItems : List Text → List Item × Option Char
  | [] => ([], none)
  | line :: rest =>
    match line.dropWhile fun c => c == ' ' || c == '\t' with
    | [] => lineItems rest
    | t =>
      match plainLine (t.length + 1) none [] t with
      | .error q => ([], some q)
      | .ok t =>
        let (l, open_) := lineItems rest
        (⟨t, true⟩ :: l, open_)

/-- The arguments of a text, up to a quote that is not closed. -/
def Separation.items (s : Separation) (t : Text) : List Item × Option Char :=
  match s with
  | .blanks => blankItems (t.length + 1) none none t
  | .lines => lineItems (linesOf t)
  | .character c =>
    let parts := (Text.splitOn c t).map fun u => (⟨u, true⟩ : Item)
    (if t.isEmpty || t.getLast? = some c then parts.dropLast else parts, none)

/-- Puts arguments into groups: at most so many arguments, lines and octets each. -/
def groups (mostItems mostLines : Option Nat) (mostOctets : Nat) :
    Nat → List Text → Nat → Nat → List Item → List (List Text)
  | _, current, _, _, [] => if current.isEmpty then [] else [current.reverse]
  | size, current, count, lines, item :: rest =>
    let length := item.text.length + 1
    let isFull := !current.isEmpty && (mostItems.any (fun n => count ≥ n) ||
      mostLines.any (fun n => lines ≥ n) || size + length > mostOctets)
    if isFull then
      let left := size - current.foldl (fun n t => n + t.length + 1) 0
      current.reverse ::
        groups mostItems mostLines mostOctets (left + length) [item.text] 1
          (if item.endsLine then 1 else 0) rest
    else
      groups mostItems mostLines mostOctets (size + length) (item.text :: current) (count + 1)
        (if item.endsLine then lines + 1 else lines) rest

/-- A text in which a part is replaced wherever it stands. -/
def replaceAll (part replacement : Text) : Nat → Text → Text
  | 0, t => t
  | _ + 1, [] => []
  | fuel + 1, c :: rest =>
    match if part.isEmpty then none else part.isPrefixOf? (c :: rest) with
    | some rest => replacement ++ replaceAll part replacement fuel rest
    | none => c :: replaceAll part replacement fuel rest

/-- The options of `xargs`. -/
def xargsSwitches : List Switch :=
  [flag '0' "null", valued 'a' "arg-file", valued 'd' "delimiter", valued 'E' "",
    ⟨some 'e', "eof", .maybe⟩, valued 'I' "", ⟨some 'i', "replace", .maybe⟩, valued 'L' "",
    ⟨some 'l', "max-lines", .maybe⟩, valued 'n' "max-args", flag 'o' "open-tty",
    valued 'P' "max-procs", flag 'p' "interactive", named "process-slot-var" .value,
    flag 'r' "no-run-if-empty", valued 's' "max-chars", named "show-limits" .nothing,
    flag 't' "verbose", flag 'x' "exit"]

/-- A count among the options of `xargs`. -/
def xargsCount (letter : String) (t : Text) : Work Nat := do
  match Numeral.integer? 10 t with
  | some (n, []) =>
    if n < 1 then
      misuse ("value ".toList ++ t ++ " for -".toList ++ letter.toList ++
        " option should be >= 1".toList)
    else pure n.toNat
  | _ =>
    misuse ("invalid number \"".toList ++ t ++ "\" for -".toList ++ letter.toList ++
      " option".toList)

/-- Runs commands one after the other, and answers the status of all of them. -/
def runAll (shows : Bool) (commands : List (List Text)) : Work Unit :=
  commands.forM fun words => do
    if shows then
      flush
      step (Prog.put 2 (Text.join [' '] (words.map (shownName false)) ++ ['\n']))
    let first := words.headD []
    let e ← environment
    match ← runCommand withoutInput (fun c e => c ++ ": ".toList ++ e.wording) words e with
    | .exited 0 => pure ()
    | .exited 255 =>
      mutter (first ++ ": exited with status 255; aborting".toList)
      stop 124
    | .exited 126 => stop 126
    | .exited 127 => stop 127
    | .exited _ => atLeast 123
    | .killed n =>
      mutter (first ++ ": terminated by signal ".toList ++ Text.ofNat n)
      stop 125

/-- The length that the arguments of a command have at most. -/
def mostArgumentOctets : Nat := 131072

/-- Runs a command with arguments from the input. -/
def xargs : Program :=
  strictToolOf usualManner xargsSwitches fun g => do
    let delimiter : Option Char := match g.last? "delimiter" with
      | some ['\\', c] => some ((Format.escape? c).getD (if c = '0' then '\x00' else c))
      | some (c :: _) => some c
      | _ => none
    let order := g.lastOf? ["I", "replace", "L", "max-lines", "max-args"]
    let mark : Option Text := match g.last? "I", g.last? "replace" with
      | some t, _ => some t
      | none, some [] => some "\x7b\x7d".toList
      | none, some t => some t
      | none, none => none
    let items ← match g.last? "max-args" with
      | none => pure none
      | some t => do pure (some (← xargsCount "n" t))
    let lines ← match g.last? "L", g.last? "max-lines" with
      | some t, _ => do pure (some (← xargsCount "L" t))
      | none, some [] => pure (some 1)
      | none, some t => do pure (some (← xargsCount "l" t))
      | none, none => pure none
    let octets ← match g.last? "max-chars" with
      | none => pure mostArgumentOctets
      | some t => xargsCount "s" t
    if items.isSome && lines.isSome then
      mutter ("warning: options --max-lines and --max-args/-n are mutually exclusive, ".toList ++
        "ignoring previous --max-lines value".toList)
    let lines := if items.isSome then none else lines
    let mark := if order == some "max-args" && items != some 1 || order == some "L" then none
      else mark
    let separation : Separation :=
      if g.has "null" then .character '\x00'
      else match delimiter with
        | some c => .character c
        | none => if mark.isSome then .lines else .blanks
    let text ← match g.last? "arg-file" with
      | none => do
        match ← readAll 0 with
        | .ok t => pure t
        | .error e => giveUp ("read error: ".toList ++ e.wording)
      | some file => do
        match ← contents file with
        | .ok t => pure t
        | .error e =>
          giveUp ("Cannot open input file ".toList ++ quotedName file ++ ": ".toList ++ e)
    let (l, open_) := separation.items text
    let end_ : Option Text := match g.last? "E", g.last? "eof" with
      | some t, _ => some t
      | none, some t => if t.isEmpty then none else some t
      | none, none => none
    let l := match end_ with
      | some t => l.takeWhile fun (item : Item) => item.text != t
      | none => l
    let command := if g.operands.isEmpty then ["echo".toList] else g.operands
    let commands : List (List Text) := match mark with
      | some m =>
        l.map fun (item : Item) =>
          command.map fun (w : Text) => replaceAll m item.text (w.length + 1) w
      | none =>
        if l.isEmpty then
          if g.has "no-run-if-empty" || open_.isSome then [] else [command]
        else
          let size := command.foldl (fun n (t : Text) => n + t.length + 1) 0
          (groups items lines octets size [] 0 0 l).map (command ++ ·)
    runAll (g.has "verbose") commands
    if let some q := open_ then
      giveUp ("unmatched ".toList ++ (if q = '"' then "double".toList else "single".toList) ++
        " quote; by default quotes are special to xargs unless you use the -0 option".toList)

end Console.Host.Tool
