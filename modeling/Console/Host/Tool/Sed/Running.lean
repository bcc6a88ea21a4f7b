import Console.Host.Tool.Directories
import Console.Host.Tool.Sed.Reading
import Console.Host.Tool.Starting

/-! Running of scripts of the stream editor: lines go through the commands one after the other, and
    what is left of them is written. -/

namespace Console.Host.Tool

open Work

namespace Sed

/-- How an editor is set up. -/
structure Editor where
  script : Script
  /-- Where the last piece of the script comes from. -/
  origin : Origin
  isQuiet : Bool
  /-- Whether each file has line numbers of its own. -/
  separates : Bool
  ending : Char
  width : Nat
  isUnbuffered : Bool
  /-- Whether a line that waits for another one in vain is dropped. -/
  isStrict : Bool
  /-- The ending of backups, if files are edited in their places. -/
  backup : Option Text

/-- Whether a range of lines has begun, with the line at which it ends if that is known. -/
inductive Range where
  | idle
  | running (stop : Option Nat)
  deriving DecidableEq, Repr

/-- What is written when the next line is read. -/
inductive Appended where
  | text (t : Text)
  | file (name : Text)

/-- Where lines go. -/
inductive Sink where
  | main
  | standard
  | descriptor (d : Nat)
  deriving DecidableEq, Repr

/-- The files that are read, and what has been read of them already. -/
structure Input where
  descriptor : Option Nat
  buffered : Text
  files : List Text
  name : Text
  number : Nat

/-- A line, and whether a newline stands behind it. -/
structure Line where
  text : Text
  isEnded : Bool

/-- Two lines as one, with a character in between. -/
def Line.joined (ending : Char) (a b : Line) : Line :=
  ⟨a.text ++ ending :: b.text, a.isEnded || b.isEnded⟩

/-- The state of an editor. -/
structure State where
  line : Line
  hold : Line
  hasReplaced : Bool
  ranges : Array Range
  /-- What is written behind the line, the last first. -/
  appended : List Appended
  last : Option Regex.Matcher
  input : Input
  sinks : Array Sink
  /-- The outputs whose last line had no newline. Number zero is the main one. -/
  unended : List Nat
  /-- What is left of files that are read line by line. -/
  readers : List (Text × Text)
  /-- What is written to the file that is edited in its place, the last piece first. -/
  gathered : Option (List Text)

/-- What an editor does. -/
abbrev Editing (α : Type) := StateT State Work α

/-- Does some work while lines are edited. -/
def working {α : Type} (w : Work α) : Editing α := fun st => do pure (← w, st)

/-- Ends the editor because it cannot go on. -/
def abandon {α : Type} (t : Text) : Editing α := working (giveUp t)

/-! ### Output -/

/-- Writes to an output. -/
def emit (output : Nat) (t : Text) : Editing Unit := do
  let st ← get
  let sink := if output = 0 then .main else (st.sinks[output - 1]?).getD .main
  match sink, st.gathered with
  | .main, some l => set { st with gathered := some (t :: l) }
  | .main, none | .standard, _ => working (say t)
  | .descriptor d, _ => working (step (Prog.put d t))

/-- Writes to an output. If its last line is not ended, that is done first. -/
def emitBehind (k : Editor) (output : Nat) (t : Text) : Editing Unit := do
  let st ← get
  if st.unended.contains output then
    set { st with unended := st.unended.filter (· != output) }
    emit output [k.ending]
  emit output t

/-- Writes a line. -/
def emitLine (k : Editor) (output : Nat) (l : Line) : Editing Unit := do
  emitBehind k output (if l.isEnded then l.text ++ [k.ending] else l.text)
  if !l.isEnded then modify fun st => { st with unended := output :: st.unended }
  if k.isUnbuffered then working flush

/-- Writes what waits for the next line. -/
def emitAppended (k : Editor) : Editing Unit := do
  let st ← get
  set { st with appended := [] }
  st.appended.reverse.forM fun a => do
    match a with
    | .text t => emitBehind k 0 t
    | .file name =>
      match ← working (contents name) with
      | .ok t => emitBehind k 0 t
      | .error _ => pure ()

/-! ### Input -/

/-- Changes the input. -/
def updateInput (f : Input → Input) : Editing Unit :=
  modify fun st => { st with input := f st.input }

/-- Reads more of the file that is open, unless something of it is left. Answers whether there is
    something. -/
def refill (k : Editor) : Editing Bool := do
  let st ← get
  if !st.input.buffered.isEmpty then pure true
  else
    match st.input.descriptor with
    | none => pure false
    | some d =>
      let piece ← working (step (if k.isUnbuffered then Prog.await fun w => w.read? d 1
        else Prog.readPiece d))
      match piece with
      | .error e =>
        abandon ("read error on ".toList ++ st.input.name ++ ": ".toList ++ e.wording)
      | .ok [] =>
        working (closeInput d)
        updateInput fun i => { i with descriptor := none }
        pure false
      | .ok t =>
        updateInput fun i => { i with buffered := t }
        pure true

/-- Opens the next file. -/
def openNext (k : Editor) (file : Text) : Editing Unit := do
  let isRegular ← working (look fun fs base => (fs.find? base file).all fs.isFile)
  if k.backup.isSome && !isRegular then
    abandon ("couldn't edit ".toList ++ file ++ ": not a regular file".toList)
  match ← working (openInput file) with
  | .error e => working (complain 2 ("can't read ".toList ++ file ++ ": ".toList ++ e.wording))
  | .ok d =>
    updateInput fun i => { i with descriptor := some d, name := file }
    if k.backup.isSome then modify fun st => { st with gathered := some [], unended := [] }

/-- Whether there is another line. Unless files are separate, it may be in one that comes later. -/
def hasMore (k : Editor) : Nat → Editing Bool
  | 0 => pure false
  | fuel + 1 => do
    if ← refill k then pure true
    else if k.separates then pure false
    else
      match (← get).input.files with
      | [] => pure false
      | file :: rest =>
        updateInput fun i => { i with files := rest }
        openNext k file
        hasMore k fuel

/-- Whether this is the last line. -/
def isLast (k : Editor) : Editing Bool := do
  pure !(← hasMore k ((← get).input.files.length + 1))

/-- The name of the backup of a file. -/
def backupName (suffix file : Text) : Text :=
  let (front, name) := Files.splitLast file
  let whole := if suffix.elem '*' then replaceAll ['*'] name (suffix.length + 1) suffix
    else name ++ suffix
  if whole.elem '/' then whole else front ++ whole

/-- Puts what was written in the place of the file that was edited. -/
def finishFile (k : Editor) : Editing Unit := do
  let st ← get
  match k.backup, st.gathered with
  | some suffix, some l =>
    set { st with gathered := none }
    let file := st.input.name
    let mode ← working (look fun fs base =>
      (((fs.find? base file).bind fs.node?).map Node.mode).getD 0o644)
    let moved ← working (change fun fs base =>
      if suffix.isEmpty then fs.unlink base file else fs.rename base file (backupName suffix file))
    match moved with
    | .error e => abandon ("cannot rename ".toList ++ file ++ ": ".toList ++ e.wording)
    | .ok () =>
      match ← working (step (Prog.open_ 3 file .creating Prog.openMode)) with
      | .error e => abandon ("couldn't open file ".toList ++ file ++ ": ".toList ++ e.wording)
      | .ok d =>
        working do
          step (Prog.put d l.reverse.flatten)
          step (Prog.close d)
          setModeAt file mode
  | _, _ => pure ()

/-- Takes the rest of a line, of which some pieces have been read already. -/
def takeRest (k : Editor) : Nat → List Text → Editing Line
  | 0, done => pure ⟨done.reverse.flatten, false⟩
  | fuel + 1, done => do
    if ← refill k then
      let t := (← get).input.buffered
      let front := t.takeWhile (· != k.ending)
      match t.drop front.length with
      | _ :: rest =>
        updateInput fun i => { i with buffered := rest }
        pure ⟨(front :: done).reverse.flatten, true⟩
      | [] =>
        updateInput fun i => { i with buffered := [] }
        takeRest k fuel (front :: done)
    else pure ⟨done.reverse.flatten, false⟩

/-- The ranges before the first line. Those that begin with line zero have begun. -/
def startRanges (s : Script) : Array Range :=
  s.commands.map fun c =>
    match c.selection.first, c.selection.limit with
    | some (.line 0), some _ => .running none
    | _, _ => .idle

/-- Takes the next line, if there is one. -/
def takeLine (k : Editor) : Nat → Editing (Option Line)
  | 0 => pure none
  | fuel + 1 => do
    if ← refill k then
      let l ← takeRest k Prog.manyPieces []
      updateInput fun i => { i with number := i.number + 1 }
      pure (some l)
    else
      finishFile k
      match (← get).input.files with
      | [] => pure none
      | file :: rest =>
        updateInput fun i => { i with files := rest }
        openNext k file
        if k.separates then
          updateInput fun i => { i with number := 0 }
          modify fun st => { st with ranges := startRanges k.script }
        takeLine k fuel

/-- Reads the next line, in the place of the one before. -/
def nextLine (k : Editor) : Editing (Option Line) := do
  emitAppended k
  modify fun st => { st with hasReplaced := false }
  takeLine k ((← get).input.files.length + 2)

/-! ### Selections -/

/-- The expression that is meant, which is then the one that was used last. -/
def expressionOf (k : Editor) (m : Option Regex.Matcher) : Editing Regex.Matcher := do
  let st ← get
  match m.orElse fun _ => st.last with
  | some m =>
    set { st with last := some m }
    pure m
  | none =>
    let refusal := (⟨k.origin, 0, 1⟩ : Spot).refusal true "no previous regular expression".toList
    working do
      flush
      mutter refusal.message
      step (Prog.exit refusal.status)

/-- Whether an address stands for the line. -/
def isAt (k : Editor) (a : Address) : Editing Bool := do
  let st ← get
  let n := st.input.number
  match a with
  | .line m => pure (n == m)
  | .step first size => pure (n ≥ first && (n - first) % size == 0)
  | .last => isLast k
  | .matched m => do
    let m ← expressionOf k m
    pure (m.find? none st.line.text).isSome

/-- Changes the range of a command. -/
def setRange (index : Nat) (r : Range) : Editing Unit :=
  modify fun st => { st with ranges := st.ranges.setIfInBounds index r }

/-- Whether a command is meant for the line. -/
def isMeant (k : Editor) (index : Nat) (s : Selection) : Editing Bool := do
  match s.first, s.limit with
  | none, _ => pure true
  | some a, none => isAt k a
  | some a, some limit => do
    let st ← get
    let n := st.input.number
    match (st.ranges[index]?).getD .idle with
    | .running (some stop) =>
      if n ≥ stop then setRange index .idle
      pure (n ≤ stop)
    | .running none =>
      match limit with
      | .address b =>
        if ← isAt k b then setRange index .idle
      | _ => setRange index .idle
      pure true
    | .idle =>
      if !(← isAt k a) then pure false
      else
        let stop : Option Nat := match limit with
          | .line m => some m
          | .count m => some (n + m)
          | .multiple m => some (if m = 0 then n else n + m - n % m)
          | .address _ => none
        match stop with
        | some m => if m > n then setRange index (.running (some m))
        | none => setRange index (.running none)
        pure true

/-! ### Substitutions -/

/-- Text with a casing. -/
def Casing.apply (c : Casing) (t : Text) : Text :=
  match c with
  | .same => t
  | .upper => t.map Char.toUpper
  | .lower => t.map Char.toLower

/-- Text with a casing, of which the first letter may have another one. -/
def cased (c : Casing) (first : Option Casing) (t : Text) : Text :=
  match first, t with
  | some f, d :: rest => f.apply [d] ++ c.apply rest
  | _, t => c.apply t

/-- What replaces a match. The casing of a first letter waits for a part that has one. -/
def replaced (t : Text) (f : Regex.Found) : Option Casing → List Part → Text
  | _, [] => []
  | waiting, p :: rest =>
    let first := p.first.orElse fun _ => waiting
    let front := cased p.casing first p.text
    let first := if p.text.isEmpty then first else none
    match p.group with
    | none => front ++ replaced t f none rest
    | some n =>
      let matched := match f.group? n with
        | some (start, stop) => Regex.slice t start stop
        | none => []
      if matched.isEmpty then front ++ replaced t f (if p.first.isSome then first else none) rest
      else front ++ cased p.casing first matched ++ replaced t f none rest

/-- Replaces matches in the rest of a line. No match is empty right behind another one. -/
def substituted (m : Regex.Matcher) (s : Substitution) :
    Nat → Nat → Bool → Option Char → List Text → Text → Bool → Text × Bool
  | 0, _, _, _, done, t, has => ((t :: done).reverse.flatten, has)
  | fuel + 1, count, isBehind, before, done, t, has =>
    match m.find? before t with
    | none => ((t :: done).reverse.flatten, has)
    | some f =>
      let isEmpty := f.start == f.stop
      let rest := t.drop f.stop
      let seen := t.take f.stop
      let before' := seen.getLast?.orElse fun _ => before
      if isEmpty && f.start = 0 && isBehind then
        match t with
        | [] => (done.reverse.flatten, has)
        | c :: rest => substituted m s fuel count false (some c) ([c] :: done) rest has
      else
        let count := count + 1
        let isWanted := count ≥ s.number
        let written := if isWanted then t.take f.start ++ replaced t f none s.parts else seen
        if isWanted && !s.isGlobal then ((rest :: written :: done).reverse.flatten, true)
        else if isEmpty then
          match rest with
          | [] => ((written :: done).reverse.flatten, has || isWanted)
          | c :: rest =>
            substituted m s fuel count false (some c) ([c] :: written :: done) rest
              (has || isWanted)
        else substituted m s fuel count true before' (written :: done) rest (has || isWanted)

/-- The output of a shell command. -/
def commandOutput (command : Text) : Editing Text :=
  working do
    let (t, _) ← capture ["sh".toList, "-c".toList, command] (← environment)
    pure t

/-- Text without the character that ends lines behind it. -/
def unended (k : Editor) (t : Text) : Text :=
  if t.getLast? = some k.ending then t.dropLast else t

/-- Changes the text of the line. -/
def setText (t : Text) : Editing Unit :=
  modify fun st => { st with line := { st.line with text := t } }

/-- Replaces what matches in the line. -/
def substitute (k : Editor) (s : Substitution) : Editing Unit := do
  let m ← expressionOf k s.expression
  let t := (← get).line.text
  let (u, has) := substituted m s (t.length + 2) 0 false none [] t false
  if has then
    modify fun st => { st with line := { st.line with text := u }, hasReplaced := true }
    if s.printsBefore then emitLine k 0 (← get).line
    if s.runs then
      setText (unended k (← commandOutput u))
    if s.printsAfter then emitLine k 0 (← get).line
    match s.output with
    | some n => emitLine k (n + 1) (← get).line
    | none => pure ()

/-! ### Lines that show everything -/

/-- A character that can be seen in any case. -/
def visible (c : Char) : Text :=
  match c with
  | '\\' => ['\\', '\\']
  | c => if isPrintable c then [c] else escaped c

/-- A text that can be seen, in lines of a width. -/
def listed (width : Nat) : Nat → Text → Text
  | _, [] => ['$', '\n']
  | place, c :: rest =>
    let t := visible c
    if width > 0 && place + t.length > width - 1 then
      '\\' :: '\n' :: t ++ listed width t.length rest
    else t ++ listed width (place + t.length) rest

/-! ### Commands -/

/-- How it goes on behind a command. -/
inductive Flow where
  | on
  | jump (place : Nat)
  /-- The line is through, and written if that is usual. -/
  | through (prints : Bool)
  /-- The line goes through all commands again. -/
  | again
  | quit (status : Nat)

/-- The place of a label; without one, the end. -/
def Script.placeOf (s : Script) (label : Text) : Nat :=
  if label.isEmpty then s.commands.size else (s.labels.lookup label).getD s.commands.size

/-- The first of the lines in a text, with what comes behind it if there are more. -/
def firstLine (k : Editor) (t : Text) : Text × Option Text :=
  let front := t.takeWhile (· != k.ending)
  (front, if front.length < t.length then some (t.drop (front.length + 1)) else none)

/-- The next line of a file that is read line by line. -/
def readerLine (k : Editor) (file : Text) : Editing (Option Text) := do
  let t ← match (← get).readers.lookup file with
    | some t => pure t
    | none => do pure ((← working (contents file)).toOption.getD [])
  let front := t.takeWhile (· != k.ending)
  let whole := t.take (front.length + 1)
  modify fun st =>
    { st with
      readers := (file, t.drop whole.length) :: st.readers.filter fun (f, _) => f != file }
  pure (if whole.isEmpty then none else some whole)

/-- Does what an order says. -/
def perform (k : Editor) (index : Nat) (o : Order) : Editing Flow := do
  let st ← get
  let append (a : Appended) : Editing Flow := do
    set { st with appended := a :: st.appended }
    pure .on
  match o with
  | .block _ => pure .on
  | .append t => append (.text t)
  | .insert t =>
    emitBehind k 0 t
    pure .on
  | .change t =>
    match (st.ranges[index]?).getD .idle with
    | .running _ => pure ()
    | .idle => emitBehind k 0 t
    pure (.through false)
  | .number =>
    emitBehind k 0 (Text.ofNat st.input.number ++ [k.ending])
    pure .on
  | .delete => pure (.through false)
  | .deleteFirst =>
    match firstLine k st.line.text with
    | (_, none) => pure (.through false)
    | (_, some rest) =>
      setText rest
      pure .again
  | .run none =>
    setText (unended k (← commandOutput st.line.text))
    pure .on
  | .run (some command) =>
    let t ← commandOutput command
    emitBehind k 0 t
    pure .on
  | .fileName =>
    emitBehind k 0 (st.input.name ++ [k.ending])
    pure .on
  | .getHold =>
    set { st with line := st.hold }
    pure .on
  | .addHold =>
    set { st with line := st.line.joined k.ending st.hold }
    pure .on
  | .hold =>
    set { st with hold := st.line }
    pure .on
  | .addToHold =>
    set { st with hold := st.hold.joined k.ending st.line }
    pure .on
  | .list width =>
    emitBehind k 0 (listed (width.getD k.width) 0 st.line.text)
    pure .on
  | .next =>
    if ← isLast k then pure (.through true)
    else
      if !k.isQuiet then emitLine k 0 st.line
      match ← nextLine k with
      | some l =>
        modify fun st => { st with line := l }
        pure .on
      | none => pure (.through false)
  | .addNext =>
    if ← isLast k then pure (.through !k.isStrict)
    else
      match ← nextLine k with
      | some l =>
        modify fun st =>
          { st with line := ⟨st.line.text ++ k.ending :: l.text, l.isEnded⟩ }
        pure .on
      | none => pure (.through true)
  | .print =>
    emitLine k 0 st.line
    pure .on
  | .printFirst =>
    emitBehind k 0 ((firstLine k st.line.text).1 ++ [k.ending])
    pure .on
  | .quit status prints =>
    if prints then
      if !k.isQuiet then emitLine k 0 st.line
      emitAppended k
    pure (.quit status)
  | .readFile file => append (.file file)
  | .readLine file =>
    match ← readerLine k file with
    | some t =>
      modify fun st => { st with appended := .text t :: st.appended }
      pure .on
    | none => pure .on
  | .substitute s =>
    substitute k s
    pure .on
  | .branch label => pure (.jump (k.script.placeOf label))
  | .branchIf label =>
    if st.hasReplaced then
      set { st with hasReplaced := false }
      pure (.jump (k.script.placeOf label))
    else pure .on
  | .branchUnless label =>
    if st.hasReplaced then
      set { st with hasReplaced := false }
      pure .on
    else pure (.jump (k.script.placeOf label))
  | .write n =>
    emitLine k (n + 1) st.line
    pure .on
  | .writeFirst n =>
    emitBehind k (n + 1) ((firstLine k st.line.text).1 ++ [k.ending])
    pure .on
  | .exchange =>
    set { st with line := st.hold, hold := st.line }
    pure .on
  | .translate pairs =>
    setText (st.line.text.map fun c => (pairs.lookup c).getD c)
    pure .on
  | .clear =>
    setText []
    pure .on

/-- Takes the line through so many commands at most, from one of them on. -/
def through (k : Editor) : Nat → Nat → Editing Flow
  | 0, _ => pure (.through true)
  | fuel + 1, index => do
    match k.script.commands[index]? with
    | none => pure (.through true)
    | some c =>
      let meant ← isMeant k index c.selection
      if meant == c.selection.isNegated then
        match c.order with
        | .block stop => through k fuel stop
        | _ => through k fuel (index + 1)
      else
        match ← perform k index c.order with
        | .on => through k fuel (index + 1)
        | .jump place => through k fuel place
        | flow => pure flow

/-- How many steps there are at most. -/
def mostSteps : Nat := 1000000000

/-- Takes so many lines through the commands at most, and answers the status. -/
def edit (k : Editor) : Nat → Bool → Editing (Option Nat)
  | 0, _ => pure none
  | fuel + 1, isAgain => do
    let isThere ← if isAgain then do
        emitAppended k
        pure true
      else
        match ← nextLine k with
        | some l => do
          modify fun st => { st with line := l }
          pure true
        | none => pure false
    if !isThere then pure none
    else
      match ← through k mostSteps 0 with
      | .quit status => pure (some status)
      | .again => edit k fuel true
      | .through prints =>
        if prints && !k.isQuiet then emitLine k 0 (← get).line
        edit k fuel false
      | _ => edit k fuel false

/-- Edits all lines. What was read from the input of the tool but not used is given back. -/
def editAll (k : Editor) : Editing Unit := do
  let status ← edit k mostSteps false
  if status.isNone then emitAppended k
  finishFile k
  let st ← get
  working do
    if st.input.descriptor = some 0 && !st.input.buffered.isEmpty then
      step (Prog.act fun w =>
        ((), if w.canUnread 0 then w.unread 0 st.input.buffered.length else w))
    match status with
    | some n => stop n
    | none => pure ()

/-! ### Options -/

/-- The options. -/
def switches : List Switch :=
  [flag 'n' "quiet", named "silent" .nothing, named "debug" .nothing, valued 'e' "expression",
    valued 'f' "file", named "follow-symlinks" .nothing, ⟨some 'i', "in-place", .maybe⟩,
    valued 'l' "line-length", named "posix" .nothing, flag 'E' "regexp-extended", flag 'r' "",
    named "sandbox" .nothing, flag 's' "separate", flag 'u' "unbuffered", flag 'z' "null-data",
    named "zero-terminated" .nothing, flag 'b' "binary"]

/-- The pieces of the script, in the order in which they are given. -/
def piecesOf : Nat → List (String × Text) → Work (List (Origin × Text))
  | _, [] => pure []
  | n, (key, t) :: rest => do
    match key with
    | "expression" => do pure ((.argument (n + 1), t) :: (← piecesOf (n + 1) rest))
    | "file" =>
      match ← contents t with
      | .ok u =>
        pure ((.file t, u) :: (← piecesOf n rest))
      | .error e => giveUp ("couldn't open file ".toList ++ t ++ ": ".toList ++ e)
    | _ => piecesOf n rest

/-- Opens the outputs of a script. -/
def openSinks : List Text → Work (List Sink)
  | [] => pure []
  | file :: rest => do
    let sink ← match String.ofList file with
      | "/dev/stdout" => pure Sink.standard
      | "/dev/stderr" => pure (.descriptor 2)
      | _ =>
        match ← step (Prog.open_ 3 file .writing Prog.openMode) with
        | .ok d => pure (.descriptor d)
        | .error e => giveUp ("couldn't open file ".toList ++ file ++ ": ".toList ++ e.wording)
    pure (sink :: (← openSinks rest))

end Sed

/-- Edits lines as a script says. -/
def sed : Program :=
  tool ⟨4, "couldn't flush stdout"⟩ fun arguments => do
    let refuse {α : Type} (t : Text) : Work α := do
      mutter t
      step (Prog.exit 1)
    match (Grammar.usual Sed.switches).read arguments with
    | .error e => refuse e
    | .ok g => do
      let hasScript := g.has "expression" || g.has "file"
      let (options, files) ← if hasScript then pure (g.options, g.operands) else
        match g.operands with
        | [] => refuse "no script".toList
        | t :: files => pure (g.options ++ [("expression", t)], files)
      let pieces ← Sed.piecesOf 0 options
      match Sed.readScript (g.has "regexp-extended" || g.has "r") (g.has "sandbox") pieces with
      | .error r =>
        mutter r.message
        step (Prog.exit r.status)
      | .ok script => do
        let sinks ← Sed.openSinks script.outputs
        let backup := g.last? "in-place"
        if backup.isSome && files.isEmpty then giveUp "no input files".toList
        let origin := ((pieces.getLast?).map Prod.fst).getD (.argument 1)
        let ending := if g.has "null-data" || g.has "zero-terminated" then '\x00' else '\n'
        let width := ((g.last? "line-length").bind Text.toNat?).getD 70
        let k : Sed.Editor :=
          ⟨script, origin, script.isQuiet || g.has "quiet" || g.has "silent",
            g.has "separate" || backup.isSome, ending, width, g.has "unbuffered", g.has "posix",
            backup⟩
        let start : Sed.State :=
          ⟨⟨[], true⟩, ⟨[], true⟩, false, Sed.startRanges script, [], none,
            ⟨none, [], if files.isEmpty then [['-']] else files, ['-'], 0⟩, sinks.toArray, [], [],
            none⟩
        let _ ← (Sed.editAll k).run start

end Console.Host.Tool
