import Console.Host.Arithmetic
import Console.Host.Builtin.Jobs
import Console.Host.Builtin.Place
import Console.Host.Expansion

/-! Running scripts: words are expanded to fields, descriptors are redirected, and commands run, in
    processes of their own where they are pipelines, subshells or files. All of it takes fuel, which
    goes down with every command, word and turn of a loop. -/

namespace Console.Host

/-- How a command runs. -/
structure Mode where
  /-- Whether its status is looked at, so that a failure does not end the script. -/
  isTested : Bool
  /-- Whether the process ends with it. -/
  isLast : Bool

namespace Mode

/-- The mode of a command that others follow. -/
def followed (mode : Mode) : Mode := { mode with isLast := false }

/-- The mode of a command whose status is looked at. -/
def tested : Mode := ⟨true, false⟩

/-- The mode of a script of its own. -/
def plain : Mode := ⟨false, false⟩

end Mode

/-! ### Processes -/

/-- Becomes what a subshell is: actions on signals are its own, and so are its jobs. -/
def beSubshell : Run Unit := do
  modify fun m => { m with traps := m.traps.filter fun (_, t) => t.isEmpty, jobs := [] }
  Builtin.settleTraps

/-- Keeps a process in the background from interrupts, and from input if it has none of its own. -/
def beInBackground (hasInput : Bool) : Run Unit := do
  modify fun m => { m with
    traps := [(2, []), (3, [])] ++ m.traps.filter fun (n, _) => n != 2 && n != 3 }
  Builtin.settleTraps
  if !hasInput then
    match ← (Prog.open_ 10 "/dev/null".toList .reading 0 : Prog _) with
    | .ok d => moveDescriptor 0 d true
    | .error _ => pure ()

/-- Waits for processes, says which of them signals have ended, and takes the status of the last
    one. -/
def waitForAll : List Nat → Run Unit
  | [] => pure ()
  | id :: rest => do
    let ending ← (Prog.collect id : Prog Ending)
    if let .killed signal := ending then put 2 (Signal.announcement signal)
    setStatus (Builtin.statusOf ending)
    waitForAll rest

/-- Whether the shell acts on signals or on its end, so that it must not become something else. -/
def Machine.hasTraps (m : Machine) : Bool := m.traps.any fun (_, t) => !t.isEmpty

/-- Becomes the file of a command. -/
def becomeFile {α : Type} (path : Text) (fields : List Text) : Run α := do
  let m ← get
  let name := fields.headD []
  let call : Call := ⟨name, fields.drop 1, m.environment⟩
  match ← (startFirst m.start call .notFound (candidates path name) : Prog _) with
  | .ok status => Run.become (pure status)
  | .error e =>
    let words := if e = .notFound ∨ e = .notDirectory then "not found".toList else e.wording
    report (name ++ ": ".toList ++ words)
    setStatus (startStatus e)
    throw .exit

/-! ### Commands to be run -/

/-- What is known of a simple command before it runs. -/
structure Plan where
  /-- All fields, as they are traced. -/
  shown : List Text
  /-- The command and its arguments. -/
  fields : List Text
  /-- Whether functions are looked for. -/
  functions : Bool
  /-- Whether the usual directories are searched. -/
  isUsual : Bool
  /-- Whether the first command of the shell among the fields is one whose failures end the
      script. -/
  isSpecial : Bool

/-- The commands whose arguments can be assignments. -/
def assigning : List Text := ["alias", "export", "local", "readonly"].map String.toList

/-- The deepest nesting of functions. -/
def deepest : Nat := 1000

mutual

/-- The pieces of the parts of a word. -/
def expand : Nat → Bool → List Part → Run (List Atom)
  | 0, _, _ => exhausted
  | _ + 1, _, [] => pure []
  | fuel + 1, colons, part :: rest => do
    let first ← match part with
      | .plain t => pure (t.map fun c => Atom.char c false)
      | .quoted t => pure (Atom.ofValue true t)
      | .parameter name use inQuotes => expandParameter fuel colons name use inQuotes
      | .output script inQuotes => do
        let t ← capture fuel script
        pure (Atom.ofValue inQuotes t)
      | .arithmetic expression inQuotes => do
        let atoms ← expand fuel false expression
        let t := Atom.text (← get).joint atoms
        match Arithmetic.evaluate (← get) t with
        | .ok (n, m) =>
          set m
          pure (Atom.ofValue inQuotes (Text.ofInt n))
        | .error .noQuotient => killedBy 8
        | .error e => fail (e.message t)
    let others ← expand fuel colons rest
    pure (first ++ others)

/-- The pieces of a parameter. -/
def expandParameter : Nat → Bool → Text → Use → Bool → Run (List Atom)
  | 0, _, _, _, _ => exhausted
  | fuel + 1, colons, name, use, inQuotes => do
    let m ← get
    let all := Machine.isAll name
    let value := m.parameter? name
    let own (m : Machine) : List Atom :=
      if all then m.parameterAtoms name inQuotes
      else Atom.ofValue inQuotes ((m.parameter? name).getD [])
    let isSet (filled : Bool) : Bool := value.any fun v => !filled || !v.isEmpty
    let needsValue : Run Unit := do
      if value.isNone && m.has 'u' then fail (unsetMessage name false none)
    let operand (l : List Part) : Run (List Atom) := do
      let atoms ← expand fuel colons (← expandTildes colons true l)
      pure (if inQuotes then .presence :: atoms else Atom.loosen atoms)
    match use with
    | .value =>
      needsValue
      pure (own m)
    | .length =>
      needsValue
      pure (Atom.ofValue inQuotes (Text.ofNat (if all then m.parameters.length
        else (value.getD []).length)))
    | .orElse filled other => if isSet filled then pure (own m) else operand other
    | .ifSet filled other =>
      if isSet filled then operand other else pure (if inQuotes then [.presence] else [])
    | .orAssign filled other =>
      if isSet filled then pure (own m)
      else
        let atoms ← expand fuel false (← expandTildes false true other)
        assign name (Atom.text (← get).joint atoms)
        pure (own (← get))
    | .orFail filled message =>
      if isSet filled then pure (own m)
      else
        let atoms ← expand fuel false (← expandTildes false true message)
        let t := Atom.text (← get).joint atoms
        fail (unsetMessage name filled (if message.isEmpty then none else some t))
    | .malformed => fail "Bad substitution".toList
    | .without atEnd longest pattern =>
      needsValue
      let chars := Atom.chars m.joint (← expand fuel false (← expandTildes false true pattern))
      let p := Pattern.ofChars (chars.length + 1) chars
      let v := value.getD []
      pure (Atom.ofValue inQuotes (if atEnd then p.dropEnd longest v else p.dropStart longest v))

/-- The output of a script, which runs in a process of its own, without newlines at its end. -/
def capture : Nat → List Command → Run Text
  | 0, _ => exhausted
  | _ + 1, [] => pure []
  | fuel + 1, script => do
    let (source, sink) ← (Prog.act fun w =>
      let (pipe, w) := w.addPipe false
      let source := w.freeDescriptor 10
      let w := w.connectTo source (Kernel.sourceOf pipe)
      let sink := w.freeDescriptor 10
      ((source, sink), w.connectTo sink (Kernel.sinkOf pipe)) : Prog (Nat × Nat))
    let id ← Run.fork do
      beSubshell
      (Prog.close source : Prog Unit)
      moveDescriptor 1 sink true
      toEnd fuel (runList fuel ⟨false, true⟩ script)
    (Prog.close sink : Prog Unit)
    let read ← (Prog.readAll source : Prog _)
    (Prog.close source : Prog Unit)
    let ending ← (Prog.collect id : Prog Ending)
    modify fun m => { m with innerStatus := Builtin.statusOf ending }
    if let .killed signal := ending then put 2 (Signal.announcement signal)
    let t := (read.toOption.getD []).filter (· != '\x00')
    pure (t.reverse.dropWhile (· == '\n')).reverse

/-- The text of a word that is not split. -/
def expandText : Nat → Bool → Word → Run Text
  | 0, _, _ => exhausted
  | fuel + 1, colons, w => do
    let atoms ← expand fuel colons (← expandTildes colons true w)
    pure (Atom.text (← get).joint atoms)

/-- The fields of a word. -/
def expandWord : Nat → Word → Run (List Text)
  | 0, _ => exhausted
  | fuel + 1, w => do
    let atoms ← expand fuel false (← expandTildes false true w)
    let m ← get
    let fields := fieldsOf m.separators atoms
    if m.has 'f' then pure (fields.map fun f => f.map Prod.fst)
    else if fields.any Pattern.isOpen then
      let texts ← (Prog.look fun files base => fields.flatMap (Field.texts files base) : Prog _)
      pure texts
    else pure (fields.map fun f => f.map Prod.fst)

/-- The fields of words. Assignments among the arguments of some commands are one field each. -/
def expandWords : Nat → Bool → List Word → Run (List Text)
  | 0, _, _ => exhausted
  | _ + 1, _, [] => pure []
  | fuel + 1, assigns, w :: ws => do
    let first ← match if assigns then assignment? w else none with
      | some (name, value) => do pure [name ++ '=' :: (← expandText fuel true value)]
      | none => expandWord fuel w
    let rest ← expandWords fuel assigns ws
    pure (first ++ rest)

/-- The fields of words up to the first that has some, and the words behind it. -/
def leadingFields : Nat → List Word → Run (List Text × List Word)
  | 0, _ => exhausted
  | _ + 1, [] => pure ([], [])
  | fuel + 1, w :: ws => do
    match ← expandWord fuel w with
    | [] => leadingFields fuel ws
    | fields => pure (fields, ws)

/-- Looks behind `command` for a command to be run: the fields in front of it, those from it on, the
    words that are left, and whether the usual directories are asked for. -/
def operandOf : Nat → List Text → List Text → List Word → Bool →
    Run (Bool × List Text × List Text × List Word × Bool)
  | 0, _, _, _, _ => exhausted
  | fuel + 1, before, fields, ws, isUsual => do
    match fields, ws with
    | [], [] => pure (false, before, [], [], isUsual)
    | [], ws =>
      let (fields, ws) ← leadingFields fuel ws
      if fields.isEmpty then pure (false, before, [], [], isUsual)
      else operandOf fuel before fields ws isUsual
    | t :: rest, ws =>
      match t with
      | ['-', '-'] =>
        let (rest, ws) ← if rest.isEmpty then leadingFields fuel ws else pure (rest, ws)
        pure (!rest.isEmpty, before ++ [t], rest, ws, isUsual)
      | '-' :: c :: letters =>
        if (c :: letters).all (· == 'p') then operandOf fuel (before ++ [t]) rest ws true
        else pure (false, before, t :: rest, ws, isUsual)
      | _ => pure (true, before, t :: rest, ws, isUsual)

/-- Finds out which command is to be run, from its first fields. -/
def planFor : Nat → List Text → List Text → List Word → Plan → Option Bool → Run Plan
  | 0, _, _, _, _, _ => exhausted
  | fuel + 1, before, fields, ws, plan, special => do
    let name := fields.headD []
    let m ← get
    let path := if plan.isUsual then usualPath else m.searchPath
    let found ← (Prog.see fun w => m.find w name plan.functions path : Prog Found)
    let isOwn := match found with
      | .builtin => true
      | _ => false
    let finish (before fields : List Text) (ws : List Word) (special : Option Bool) :
        Run Plan := do
      let others ← expandWords fuel (isOwn && assigning.contains name) ws
      let fields := fields ++ others
      pure { plan with
        shown := before ++ fields, fields := fields, isSpecial := special.getD false }
    if !isOwn then finish before fields ws special
    else
      let special := special.or (some (specialNames.contains name))
      if name ≠ "command".toList then finish before fields ws special
      else
        let (isThere, skipped, rest, ws, isUsual) ←
          operandOf fuel [] (fields.drop 1) ws plan.isUsual
        if isThere then
          planFor fuel (before ++ name :: skipped) rest ws
            { plan with functions := false, isUsual := isUsual } special
        else finish before (name :: skipped ++ rest) ws special

/-- Expands the words of a redirection. -/
def expandRedirection : Nat → Redirection → Run Redirected
  | 0, _ => exhausted
  | fuel + 1, r => do
    let file (d : Nat) (w : Word) (wanted : Wanted) (forced : Bool) : Run Redirected := do
      pure (.open_ d (← expandText fuel false w) wanted forced)
    match r with
    | .input d w => file d w .reading false
    | .output d w forced => file d w .writing forced
    | .append d w => file d w .appending false
    | .update d w => file d w .updating false
    | .document d n => pure (.document d (((← get).documents.lookup n).getD []))
    | .copy d w =>
      match ← expandText fuel false w with
      | ['-'] => pure (.close d)
      | [c] => if c.isDigit then pure (.copy d (c.toNat - '0'.toNat)) else badDescriptor fuel
      | _ => badDescriptor fuel

/-- Stops because of a redirection to what is no descriptor. -/
def badDescriptor : Nat → Run Redirected
  | 0 => exhausted
  | _ + 1 => do
    modify fun m => { m with line := m.readLine }
    fail "Syntax error: Bad fd number".toList

/-- Expands the words of redirections. -/
def expandRedirections : Nat → List Redirection → Run (List Redirected)
  | 0, _ => exhausted
  | _ + 1, [] => pure []
  | fuel + 1, r :: rs => do
    let first ← expandRedirection fuel r
    let rest ← expandRedirections fuel rs
    pure (first :: rest)

/-- Redirects descriptors one after the other. -/
def redirect : Nat → List Redirected → Run Unit
  | 0, _ => exhausted
  | _ + 1, [] => pure ()
  | fuel + 1, r :: rs => do
    match r with
    | .open_ d path wanted forced => openFor d path wanted forced
    | .copy d source => copyFor d source
    | .close d => closeFor d
    | .document d parts =>
      let atoms ← expand fuel false parts
      supplyFor d (Atom.text (← get).joint atoms)
    redirect fuel rs

/-- Redirects descriptors, and answers whether that has succeeded. -/
def redirectSafely : Nat → List Redirected → Run Bool
  | 0, _ => exhausted
  | fuel + 1, rs => do
    match ← Run.attempt (redirect fuel rs) with
    | .ok () => pure true
    | .error .failure => pure false
    | .error flow => throw flow

/-- Runs something with redirections that end with it. -/
def withRedirections : Nat → List Redirection → Run Unit → Run Unit
  | 0, _, _ => exhausted
  | fuel + 1, rs, run => do
    let rs ← expandRedirections fuel rs
    pushFrame
    let r ← Run.attempt do
      if ← redirectSafely fuel rs then run else setStatus 2
    popFrame false
    Run.resume r

/-- Assigns the values of a command, for itself alone or for what follows. -/
def assignAll : Nat → Bool → Bool → List (Text × Word) → Run (List Text)
  | 0, _, _, _ => exhausted
  | _ + 1, _, _, [] => pure []
  | fuel + 1, isLocal, exports, (name, w) :: rest => do
    let value ← expandText fuel true w
    if isLocal then
      modify fun m =>
        match m.scopes with
        | [] => m
        | scope :: scopes =>
          { m with scopes := (.variable_ name (m.binding? name) :: scope) :: scopes }
    assign name value
    if isLocal || exports then
      modify fun m =>
        m.putVariable name { (m.binding? name).getD .unset with isExported := true }
    let others ← assignAll fuel isLocal exports rest
    pure ((name ++ '=' :: value) :: others)

/-- Writes a command before it runs. -/
def trace : Nat → List Text → Run Unit
  | 0, _ => exhausted
  | fuel + 1, texts => do
    let m ← get
    if m.has 'x' && !m.isPrompting then
      let d := traceDescriptor m
      set { m with isPrompting := true }
      let prompt := m.known "PS4"
      let t ← match (parts plenty .document []).run (.ofText prompt m.aliases 0) with
        | .ok (l, _) => do pure (Atom.text m.joint (← expand fuel false l))
        | .error _ => pure prompt
      modify fun m => { m with isPrompting := false }
      put d (t ++ Text.join [' '] texts ++ ['\n'])

/-- Runs a simple command. -/
def runSimple : Nat → Mode → Nat → List (Text × Word) → List Word → List Redirection → Run Unit
  | 0, _, _, _, _, _ => exhausted
  | fuel + 1, mode, line, assignments, words, rs => do
    modify fun m => { m with line := line, innerStatus := 0 }
    let (first, others) ← leadingFields fuel words
    let empty : Plan := ⟨[], [], true, false, false⟩
    let plan ← if first.isEmpty then pure empty else planFor fuel [] first others empty none
    let isNamed := !plan.fields.isEmpty
    let isExec := plan.fields.head? = some "exec".toList
    let isLocal := isNamed && !plan.isSpecial
    let scopes := (← get).scopes
    if isLocal then modify fun m => { m with scopes := [] :: m.scopes }
    let frames := (← get).frames
    let r ← Run.attempt do
      let rs ← expandRedirections fuel rs
      pushFrame
      if ← redirectSafely fuel rs then
        let assigned ← assignAll fuel isLocal (isExec && plan.fields.length > 1) assignments
        trace fuel (assigned ++ plan.shown)
        if isNamed then runPlan fuel mode plan else
          modify fun m => { m with status := m.innerStatus }
      else
        setStatus 2
        if plan.isSpecial then throw .failure
    if (← get).frames.length > frames.length then
      popFrame (isExec && r.toOption.isSome)
    if isLocal then
      modify fun m =>
        let kept := m.scopes.head?.getD []
        { kept.foldl Machine.restore m with scopes := scopes }
    Run.resume r

/-- Runs the command of a plan. -/
def runPlan : Nat → Mode → Plan → Run Unit
  | 0, _, _ => exhausted
  | fuel + 1, mode, plan => do
    let m ← get
    let name := plan.fields.headD []
    let path := if plan.isUsual then usualPath else m.searchPath
    match ← findCommand name plan.functions path with
    | .function body => callFunction fuel mode body (plan.fields.drop 1)
    | .builtin => runBuiltin fuel mode plan
    | .file _ =>
      if mode.isLast && !(← get).hasTraps then becomeFile path plan.fields
      else
        let id ← Run.fork (becomeFile path plan.fields)
        waitForAll [id]
    | found =>
      report (name ++ ": ".toList ++ found.obstacle)
      setStatus 127

/-- Calls a function. -/
def callFunction : Nat → Mode → Command → List Text → Run Unit
  | 0, _, _, _ => exhausted
  | fuel + 1, mode, body, arguments => do
    let m ← get
    if m.calls ≥ deepest then fail "Maximum function recursion depth (1000) reached".toList
    set { m with
      parameters := arguments, loops := 0, calls := m.calls + 1, optionIndex := 1,
      optionOffset := none }
    let r ← Run.attempt (run fuel mode.followed body)
    modify fun now => { now with
      parameters := m.parameters, loops := m.loops, calls := m.calls,
      optionIndex := m.optionIndex, optionOffset := m.optionOffset }
    match r with
    | .error .return_ => pure ()
    | r => Run.resume r

/-- Carries out a command of the shell itself. -/
def runBuiltin : Nat → Mode → Plan → Run Unit
  | 0, _, _ => exhausted
  | fuel + 1, mode, plan => do
    let name := plan.fields.headD []
    let outer := (← get).commandName
    modify fun m => { m with commandName := some name, hasLost := false }
    let r ← Run.attempt do
      let status ← carryOut fuel mode name (plan.fields.drop 1)
      if (← get).hasLost then
        report (name ++ ": I/O error".toList)
        setStatus (Nat.lor status 1)
      else setStatus status
    modify fun m => { m with commandName := outer, hasLost := false }
    match r with
    | .error .failure => if plan.isSpecial then throw .failure
    | r => Run.resume r

/-- Carries out the command of a name. -/
def carryOut : Nat → Mode → Text → Builtin
  | 0, _, _, _ => exhausted
  | fuel + 1, mode, name, arguments => do
    match String.ofList name with
    | "eval" =>
      let text := Text.join [' '] arguments
      setStatus 0
      runText fuel mode.followed text
      pure (← get).status
    | "." => runFile fuel arguments
    | "exec" => if arguments.isEmpty then pure 0 else becomeFile (← get).searchPath arguments
    | "[" => Builtin.bracket arguments
    | "alias" => Builtin.alias_ arguments
    | "bg" | "fg" => Builtin.controlling arguments
    | "break" => Builtin.breaking .leave arguments
    | "cd" | "chdir" => Builtin.cd arguments
    | "command" => Builtin.command arguments
    | "continue" => Builtin.breaking .skip arguments
    | "echo" => Builtin.echo arguments
    | "exit" => Builtin.exit arguments
    | "export" => Builtin.export_ arguments
    | "false" => pure 1
    | "getopts" => Builtin.getopts arguments
    | "hash" => Builtin.hash arguments
    | "jobs" => Builtin.jobs arguments
    | "kill" => Builtin.kill arguments
    | "local" => Builtin.local_ arguments
    | "printf" => Builtin.printf arguments
    | "pwd" => Builtin.pwd arguments
    | "read" => Builtin.read arguments
    | "readonly" => Builtin.readonly arguments
    | "return" => Builtin.return_ arguments
    | "set" => Builtin.set arguments
    | "shift" => Builtin.shift arguments
    | "test" => Builtin.test arguments
    | "times" => do
      answerWith "0m0.000000s 0m0.000000s\n0m0.000000s 0m0.000000s\n".toList
      pure 0
    | "trap" => Builtin.trap arguments
    | "type" => Builtin.type_ arguments
    | "ulimit" => do
      if arguments.all fun t => t.head? = some '-' then answerWith "unlimited\n".toList
      pure 0
    | "umask" => Builtin.umask arguments
    | "unalias" => Builtin.unalias arguments
    | "unset" => Builtin.unset arguments
    | "wait" => Builtin.wait arguments
    | _ => pure 0

/-- Runs the script in a file. A name without slash is looked for as commands are. -/
def runFile : Nat → Builtin
  | 0, _ => exhausted
  | fuel + 1, arguments => do
    let (_, arguments) ← Builtin.parsed "" arguments
    match arguments with
    | [] => pure 0
    | t :: _ =>
      let m ← get
      let found ← if t.elem '/' then pure (some t) else
        (Prog.look fun files base =>
          (candidates m.searchPath t).find? fun t => (files.find? base t).any files.isFile :
          Prog (Option Text))
      let path ← match found with
        | some path => pure path
        | none => fail (t ++ ": not found".toList)
      match ← (Prog.open_ 10 path .reading 0 : Prog _) with
      | .error e => fail (Redirected.message path .reading e)
      | .ok d =>
        let read ← (Prog.readAll d : Prog _)
        (Prog.close d : Prog Unit)
        let outer := m.commandName
        set { m with commandName := some path, status := 0 }
        let r ← Run.attempt (runText fuel .plain (read.toOption.getD []))
        modify fun m => { m with commandName := outer }
        match r with
        | .ok () | .error .return_ => pure (← get).status
        | .error flow => throw flow

/-- Runs the actions on the signals that have come. -/
def runTraps : Nat → Run Unit
  | 0 => exhausted
  | fuel + 1 => do
    let m ← get
    if m.traps.any fun (n, t) => n != 0 && !t.isEmpty then
      let signal ← (Prog.act fun w =>
        match w.self.pending with
        | [] => (none, w)
        | n :: rest =>
          let least := rest.foldl min n
          (some least,
            w.updateSelf fun p => { p with pending := p.pending.filter (· != least) }) :
        Prog (Option Nat))
      match signal with
      | none => pure ()
      | some n =>
        let status := m.savedStatus.getD m.status
        set { m with savedStatus := some status }
        let r ← Run.attempt (runText fuel .plain ((m.traps.lookup n).getD []))
        modify fun now => { now with savedStatus := m.savedStatus }
        match r with
        | .ok () | .error (.leave _) | .error (.skip _) => setStatus status
        | _ => pure ()
        Run.resume r
        runTraps fuel

/-- Runs commands one after the other. -/
def runList : Nat → Mode → List Command → Run Unit
  | 0, _, _ => exhausted
  | _ + 1, mode, [] => if mode.isLast then throw .exit else pure ()
  | fuel + 1, mode, [c] => run fuel mode c
  | fuel + 1, mode, c :: cs => do
    run fuel mode.followed c
    runList fuel mode cs

/-- Runs something to the end of the process, and then the action on that end. -/
def toEnd : Nat → Run Unit → Run Unit
  | 0, _ => exhausted
  | fuel + 1, body => do
    let _ ← Run.attempt body
    let m ← get
    match m.traps.lookup 0 with
    | none | some [] => pure ()
    | some action =>
      set { m with
        traps := m.traps.filter fun (n, _) => n != 0, savedStatus := some m.status, loops := 0,
        commandName := none }
      match ← Run.attempt (runText fuel .plain action) with
      | .error .exit | .error .failure => pure ()
      | _ => setStatus m.status

/-- Runs a command, and ends the script where a failure does. -/
def run : Nat → Mode → Command → Run Unit
  | 0, _, _ => exhausted
  | fuel + 1, mode, c => do
    if (← get).has 'n' then
      if mode.isLast then throw .exit
      return
    runTraps fuel
    runNode fuel mode c
    runTraps fuel
    let isChecked := match c with
      | .simple _ _ _ _ | .pipeline _ | .subshell _ _ _ | .background _ _ => true
      | _ => false
    let m ← get
    if isChecked && !mode.isTested && m.status ≠ 0 && m.has 'e' then throw .exit
    if mode.isLast then throw .exit

/-- Runs a command, whatever becomes of it. -/
def runNode : Nat → Mode → Command → Run Unit
  | 0, _, _ => exhausted
  | fuel + 1, mode, c => do
    match c with
    | .simple line assignments words rs =>
      (Prog.sleep 20000 : Prog Unit)
      runSimple fuel mode line assignments words rs
    | .negated c =>
      run fuel .tested c
      modify fun m => { m with status := if m.status = 0 then 1 else 0 }
    | .pipeline cs =>
      let ids ← runStages fuel mode false none cs
      waitForAll ids
    | .both first second =>
      run fuel .tested first
      if (← get).status = 0 then run fuel mode second
    | .either first second =>
      run fuel .tested first
      if (← get).status ≠ 0 then run fuel mode second
    | .background line c =>
      modify fun m => { m with line := line }
      let ids ← match c with
        | .pipeline cs => runStages fuel mode true none cs
        | .redirected _ c rs => do
          let rs ← expandRedirections fuel rs
          let id ← Run.fork (runAlone fuel mode true rs [c])
          pure [id]
        | c => do
          let id ← Run.fork (runAlone fuel mode true [] [c])
          pure [id]
      Builtin.addJob ids
      setStatus 0
    | .group cs => runList fuel mode cs
    | .subshell line cs rs =>
      modify fun m => { m with line := line }
      let rs ← expandRedirections fuel rs
      if mode.isLast && !(← get).hasTraps then runAlone fuel mode false rs cs
      else
        let id ← Run.fork (runAlone fuel mode false rs cs)
        waitForAll [id]
    | .redirected line c rs =>
      modify fun m => { m with line := line }
      withRedirections fuel rs (run fuel mode.followed c)
    | .branch condition yes no =>
      runList fuel .tested condition
      if (← get).status = 0 then runList fuel mode yes
      else
        setStatus 0
        runList fuel mode no
    | .loop inverted condition body =>
      modify fun m => { m with loops := m.loops + 1 }
      let r ← Run.attempt (runLoop fuel mode.followed inverted condition body 0)
      modify fun m => { m with loops := m.loops - 1 }
      Run.resume r
    | .each line name words body =>
      modify fun m => { m with line := line }
      let items ← match words with
        | none => do pure (← get).parameters
        | some ws => expandWords fuel false ws
      modify fun m => { m with loops := m.loops + 1, status := 0 }
      let r ← Run.attempt (runEach fuel mode.followed name items body)
      modify fun m => { m with loops := m.loops - 1 }
      Run.resume r
    | .choice line word clauses =>
      modify fun m => { m with line := line }
      let t ← expandText fuel false word
      setStatus 0
      runChoice fuel mode t clauses
    | .function _ name body =>
      modify fun m => { m with functions := Entries.put name body m.functions, status := 0 }

/-- Runs commands as a process of their own, with redirections. -/
def runAlone : Nat → Mode → Bool → List Redirected → List Command → Run Unit
  | 0, _, _, _, _ => exhausted
  | fuel + 1, mode, isBackground, rs, cs => do
    beSubshell
    if isBackground then beInBackground false
    toEnd fuel do
      pushFrame
      redirect fuel rs
      runList fuel ⟨mode.isTested && !isBackground, true⟩ cs
    throw .exit

/-- Starts the commands of a pipeline, each with the output of the one before it as its input, and
    answers their numbers. -/
def runStages : Nat → Mode → Bool → Option Nat → List Command → Run (List Nat)
  | 0, _, _, _, _ => exhausted
  | _ + 1, _, _, _, [] => pure []
  | fuel + 1, mode, isBackground, input, c :: cs => do
    let output ← if cs.isEmpty then pure none else do
      let ends ← (Prog.act fun w =>
        let (pipe, w) := w.addPipe false
        let source := w.freeDescriptor 10
        let w := w.connectTo source (Kernel.sourceOf pipe)
        let sink := w.freeDescriptor 10
        ((source, sink), w.connectTo sink (Kernel.sinkOf pipe)) : Prog (Nat × Nat))
      pure (some ends)
    let id ← Run.fork do
      beSubshell
      if isBackground then beInBackground input.isSome
      if let some d := input then moveDescriptor 0 d true
      if let some (source, sink) := output then
        (Prog.close source : Prog Unit)
        moveDescriptor 1 sink true
      toEnd fuel (run fuel { mode with isLast := true } c)
    if let some d := input then (Prog.close d : Prog Unit)
    if let some (_, sink) := output then (Prog.close sink : Prog Unit)
    let others ← runStages fuel mode isBackground (output.map Prod.fst) cs
    pure (id :: others)

/-- Runs the body of a loop once, and answers whether the loop goes on. -/
def runBody : Nat → Mode → List Command → Run Bool
  | 0, _, _ => exhausted
  | fuel + 1, mode, body => do
    match ← Run.attempt (runList fuel mode body) with
    | .ok () => pure true
    | .error (.leave n) => if n ≤ 1 then pure false else throw (.leave (n - 1))
    | .error (.skip n) => if n ≤ 1 then pure true else throw (.skip (n - 1))
    | .error flow => throw flow

/-- Repeats a body; its last status is that of the loop. -/
def runLoop : Nat → Mode → Bool → List Command → List Command → Nat → Run Unit
  | 0, _, _, _, _, _ => exhausted
  | fuel + 1, mode, inverted, condition, body, last => do
    match ← Run.attempt (runBody fuel .tested condition) with
    | .error flow => throw flow
    | .ok false => setStatus last
    | .ok true =>
      let holds := ((← get).status == 0) != inverted
      if !holds then setStatus last
      else if ← runBody fuel mode body then
        runLoop fuel mode inverted condition body (← get).status
      else pure ()

/-- Runs a body for each of some texts. -/
def runEach : Nat → Mode → Text → List Text → List Command → Run Unit
  | 0, _, _, _, _ => exhausted
  | _ + 1, _, _, [], _ => pure ()
  | fuel + 1, mode, name, t :: ts, body => do
    assign name t
    if ← runBody fuel mode body then runEach fuel mode name ts body

/-- Runs the first clause with a pattern that matches. -/
def runChoice : Nat → Mode → Text → List (List Word × List Command) → Run Unit
  | 0, _, _, _ => exhausted
  | _ + 1, _, _, [] => pure ()
  | fuel + 1, mode, t, (patterns, body) :: rest => do
    if ← matchesAny fuel t patterns then
      if !body.isEmpty then runList fuel mode body
    else runChoice fuel mode t rest

/-- Whether a text matches one of some patterns, which are expanded as far as they are needed. -/
def matchesAny : Nat → Text → List Word → Run Bool
  | 0, _, _ => exhausted
  | _ + 1, _, [] => pure false
  | fuel + 1, t, w :: ws => do
    let chars := Atom.chars (← get).joint (← expand fuel false (← expandTildes false true w))
    if (Pattern.ofChars (chars.length + 1) chars).matchesAll t then pure true
    else matchesAny fuel t ws

/-- Runs a script line by line. -/
def runText : Nat → Mode → Text → Run Unit
  | 0, _, _ => exhausted
  | fuel + 1, mode, text => do
    let m ← get
    let r ← Run.attempt (runLines fuel mode false (.ofText text m.aliases m.nextDocument) none)
    modify fun now => { now with readLine := m.readLine }
    Run.resume r

/-- Runs the lines of a script that are left. The status of a script without commands is zero. -/
def runLines : Nat → Mode → Bool → Source → Option Nat → Run Unit
  | 0, _, _, _, _ => exhausted
  | fuel + 1, mode, isFile, source, last => do
    let m ← get
    match nextLine { source with aliases := m.aliases, nextDocument := m.nextDocument } with
    | .error e =>
      set { m with line := e.line, readLine := e.line }
      fail ("Syntax error: ".toList ++ e.cause.message)
    | .ok (line, rest) =>
      if isFile && m.has 'v' then put 2 (source.rest.take (source.left - rest.left))
      match line with
      | none => setStatus (last.getD 0)
      | some l =>
        modify fun m => { m with
          documents := rest.documents ++ m.documents, nextDocument := rest.nextDocument
          readLine := rest.line }
        let isAtEnd := match rest.last with
          | .endOfText => rest.isBack
          | _ => false
        let mode : Mode := { mode with isLast := mode.isLast && isAtEnd }
        runList fuel mode l
        let status := (← get).status
        runLines fuel mode isFile { rest with documents := [] }
          (if l.isEmpty then last else some status)

end

end Console.Host
