import Console.Host.Tool.Awk.Record
import Console.Host.Tool.Awk.Syntax
import Console.Host.Tool.Awk.Table
import Console.Host.Tool.Starting

/-! The state of a script over records, and what it can do to it. A run is a value, a piece of work
    to be done before it goes on, or an end. -/

namespace Console.Host.Tool.Awk

/-- What is read: a descriptor, perhaps of a process that writes. -/
structure Stream where
  descriptor : Nat
  process : Option Nat
  buffered : Text
  /-- Whether nothing comes behind what has been read. -/
  isDone : Bool

/-- What is written. -/
structure Sink where
  isCommand : Bool
  name : Text
  descriptor : Nat
  process : Option Nat
  /-- What is not yet written, the last first. -/
  pending : List Text
  size : Nat

/-- What a variable of a function holds. -/
inductive Cell where
  | value (v : Value)
  /-- The number of a table. -/
  | table (n : Nat)

/-- The state of a script. -/
structure Machine where
  globals : Array Value
  /-- The tables: those of the variables of the script by their numbers, and behind them those of
      functions. -/
  tables : Array Table
  frame : Array Cell
  record : Record
  fieldSeparator : Separator
  recordSeparator : Separator
  /-- The file whose records are gone through. -/
  input : Option Stream
  /-- The number of the next argument. -/
  nextArgument : Nat
  /-- Whether there was a file among the arguments, or they are all through. -/
  hasFile : Bool
  isThrough : Bool
  /-- What else is read, commands and files by their names. -/
  sources : List ((Bool × Text) × Stream)
  sinks : List Sink
  /-- What is not yet written to the output of the tool, the last first. -/
  pending : List Text
  size : Nat
  patterns : Std.HashMap Text Regex.Matcher
  /-- Which ranges have begun. -/
  ranges : Array Bool
  status : Nat
  /-- The state of random numbers, and what it was set from. -/
  random : Nat
  seed : Value

/-- Why a run ends. -/
inductive Stop where
  | exit
  /-- A failure, as it is reported. -/
  | failure (t : Text)

/-- What becomes of a run. -/
inductive Outcome (α : Type) : Type 1 where
  | value (a : α) (m : Machine)
  | act {β : Type} (w : Work β) (next : β → Outcome α)
  | stopped (s : Stop) (m : Machine)

namespace Outcome

/-- Goes on with a value. -/
def bind {α β : Type} (o : Outcome α) (f : α → Machine → Outcome β) : Outcome β :=
  match o with
  | .value a m => f a m
  | .act w next => .act w fun b => bind (next b) f
  | .stopped s m => .stopped s m

/-- Goes on whether or not there is a value. -/
def caught {α : Type} : Outcome α → Outcome (Except Stop α)
  | .value a m => .value (.ok a) m
  | .act w next => .act w fun b => caught (next b)
  | .stopped s m => .value (.error s) m

/-- Does the work of a run. -/
def work {α : Type} : Outcome α → Work (Except Stop α × Machine)
  | .value a m => pure (.ok a, m)
  | .act w next => fun desk k => w desk fun (b, desk) => work (next b) desk k
  | .stopped s m => pure (.error s, m)

end Outcome

/-- What changes the state of a script. -/
def Running (α : Type) : Type 1 := Machine → Outcome α

@[always_inline]
instance : Monad Running where
  pure a := fun m => .value a m
  bind p f := fun m =>
    match p m with
    | .value a m => f a m
    | o => o.bind f

namespace Running

/-! ### Steps -/

/-- Does a piece of work. -/
def act {α : Type} (w : Work α) : Running α := fun m => .act w fun a => .value a m

/-- Does a step of the process. -/
def step {α : Type} (p : Prog α) : Running α := act (Tool.step p)

/-- Looks at the state. -/
@[inline] def see {α : Type} (f : Machine → α) : Running α := fun m => .value (f m) m

/-- Changes the state. -/
@[inline] def change (f : Machine → Machine) : Running Unit := fun m => .value () (f m)

/-- Changes the state and answers something. -/
@[inline] def update {α : Type} (f : Machine → α × Machine) : Running α := fun m =>
  let (a, m) := f m
  .value a m

/-- Ends the run. -/
def stop {α : Type} (s : Stop) : Running α := fun m => .stopped s m

/-- Ends the run because something cannot be done. -/
def giveUp {α : Type} (t : Text) : Running α := stop (.failure t)

/-- Goes on even if a run ends. -/
def caught {α : Type} (r : Running α) : Running (Except Stop α) := fun m => (r m).caught

/-- Does turns until one of them answers something, so many at most. -/
def iterate {σ α : Type} (turn : σ → Running (α ⊕ σ)) (otherwise : α) : Nat → σ → Running α
  | 0, _ => pure otherwise
  | fuel + 1, x => fun m =>
    match turn x m with
    | .value (.inl a) m => .value a m
    | .value (.inr x) m => iterate turn otherwise fuel x m
    | .act w next => .act w fun b => (next b).bind fun r m =>
      match r with
      | .inl a => .value a m
      | .inr x => iterate turn otherwise fuel x m
    | .stopped s m => .stopped s m

/-! ### Variables -/

/-- The value of a variable of the script. -/
def global (n : Nat) : Running Value := see fun m => m.globals.getD n .unset

/-- A variable of the script as a text. -/
def globalText (n : Nat) : Running Text :=
  see fun m => (m.globals.getD n .unset).toText "%.6g".toList

/-- The format of numbers that become texts. -/
def textFormat : Running Text := globalText Slot.textFormat

/-- A value as a text. -/
def textOf (v : Value) : Running Text :=
  match v with
  | .text t | .input t => pure t
  | v => do pure (v.toText (← textFormat))

/-- Ends the run because of a value, and tells where. -/
def failHere {α : Type} (t : Text) : Running α := do
  let file ← globalText Slot.fileName
  let here ← globalText Slot.fileRecords
  let all ← globalText Slot.records
  giveUp ("run time error: ".toList ++ t ++ "\n\tFILENAME=\"".toList ++ file ++
    "\" FNR=".toList ++ here ++ " NR=".toList ++ all)

/-- Ends the run because a text is no pattern. -/
def failPattern {α : Type} (f : Pattern.Fault) (source : Text) : Running α :=
  failHere ("regular expression compile failed (".toList ++ f.message.toList ++ ")\n".toList ++
    source)

/-- The matcher of a text. -/
def matcherOf (t : Text) : Running Regex.Matcher := do
  match ← see fun m => m.patterns.get? t with
  | some p => pure p
  | none =>
    match Pattern.matcher t with
    | .error f => failPattern f t
    | .ok p =>
      change fun m => { m with patterns := m.patterns.insert t p }
      pure p

/-- Sets a variable of the script without regard to what it means. -/
def setSlot (n : Nat) (v : Value) : Running Unit :=
  change fun m => { m with globals := m.globals.setIfInBounds n v }

/-- Sets a variable of the script. A new separator of fields does not count for the record that is
    there. -/
def setGlobal (n : Nat) (v : Value) : Running Unit := do
  setSlot n v
  if n = Slot.fieldSeparator then
    let t ← textOf v
    match Separator.ofFields t with
    | .error f => failPattern f t
    | .ok s =>
      let format ← textFormat
      change fun m =>
        { m with record := m.record.split m.fieldSeparator format, fieldSeparator := s }
  else if n = Slot.recordSeparator then
    let t ← textOf v
    match Separator.ofRecords t with
    | .error f => failPattern f t
    | .ok s => change fun m => { m with recordSeparator := s }

/-- The value of a variable. -/
def variable_ (v : Variable) : Running Value := see fun m =>
  match v with
  | .global n => m.globals.getD n .unset
  | .own n =>
    match m.frame[n]? with
    | some (.value v) => v
    | _ => .unset

/-- Sets a variable. -/
def setVariable (v : Variable) (a : Value) : Running Unit :=
  match v with
  | .global n =>
    if n = Slot.fieldSeparator || n = Slot.recordSeparator then setGlobal n a else setSlot n a
  | .own n => change fun m => { m with frame := m.frame.setIfInBounds n (.value a) }

/-- The number of the table of a variable, if it holds one. -/
def table? (v : Variable) : Running (Option Nat) := see fun m =>
  match v with
  | .global n => some n
  | .own n =>
    match m.frame[n]? with
    | some (.table n) => some n
    | _ => none

/-- The number of the table of a variable. -/
def tableOf (v : Variable) : Running Nat := do pure ((← table? v).getD 0)

/-- Uses a table and answers something. -/
def onTable {α : Type} (n : Nat) (f : Table → α × Table) : Running α := fun m =>
  let tables := m.tables
  let m := { m with tables := #[] }
  let t := tables.getD n .empty
  let tables := tables.setIfInBounds n .empty
  let (a, t) := f t
  .value a { m with tables := tables.setIfInBounds n t }

/-- Puts another table in the place of one. -/
def setTable (n : Nat) (t : Table) : Running Unit :=
  change fun m => { m with tables := m.tables.setIfInBounds n t }

/-! ### The record -/

/-- Sets the record to a value. -/
def setRecord (v : Value) : Running Unit := change fun m => { m with record := .ofValue v }

/-- Takes the record apart. -/
def splitRecord : Running Unit := do
  if !(← see fun m => m.record.isSplit) then
    let format ← textFormat
    change fun m => { m with record := m.record.split m.fieldSeparator format }

/-- The record as a whole. -/
def wholeRecord : Running Value := do
  if !(← see fun m => m.record.isWhole) then
    let joint ← globalText Slot.fieldJoint
    let format ← textFormat
    change fun m => { m with record := m.record.join joint format }
  see fun m => m.record.whole

/-- The text of the record. -/
def recordText : Running Text := do
  match ← wholeRecord with
  | .input t | .text t => pure t
  | v => textOf v

/-- How many fields there are. -/
def fieldCount : Running Nat := do
  splitRecord
  see fun m => m.record.fields.size

/-- Checks the number of a field. -/
def fieldNumber (v : Value) : Running Nat := do
  let x := v.toNumber
  let n := x.toShort
  if n < 0 then
    failHere ("negative field index $".toList ++ (Value.number x).toText "%.6g".toList)
  else pure n.toNat

/-- The value of a field, of which number zero is the whole record. -/
def field (n : Nat) : Running Value := do
  if n = 0 then wholeRecord
  else
    splitRecord
    see fun m => m.record.fields.getD (n - 1) (.text [])

/-- Prepares a field to be set whose number was calculated. A record that is not yet taken apart is
    empty then as a whole. -/
def readyField (n : Nat) : Running Unit :=
  change fun m =>
    if n > 0 || m.record.isSplit then m else { m with record := .ofValue (.input []) }

/-- Sets a field. -/
def setField (n : Nat) (v : Value) : Running Unit := do
  if n = 0 then setRecord v
  else
    splitRecord
    change fun m => { m with record := m.record.setField n v }

/-- Sets the number of fields. -/
def setFieldCount (v : Value) : Running Unit := do
  splitRecord
  let n : Int := match v.toNumber with
    | .undefined _ => 0
    | x => x.toShort
  if n < 0 then failHere "negative value assigned to NF".toList
  else change fun m => { m with record := m.record.resize n.toNat }

/-! ### Output -/

/-- How much output waits until it is written. -/
def bufferSize : Nat := 4096

/-- Reports what goes wrong while something is written. -/
def failedWriting {α : Type} (e : Obstacle) : Running α :=
  giveUp ("write failure (".toList ++ e.wording ++ [')'])

/-- Writes what waits for the output of the tool. -/
def flushMain : Running Unit := do
  let l ← update fun m => (m.pending, { m with pending := [], size := 0 })
  if !l.isEmpty then
    match ← step (Prog.write 1 l.reverse.flatten) with
    | .ok () => pure ()
    | .error e => failedWriting e

/-- Writes to the output of the tool. -/
def say (t : Text) : Running Unit := do
  change fun m => { m with pending := t :: m.pending, size := m.size + t.length }
  if (← see fun m => m.size) ≥ bufferSize then flushMain

/-- Writes what waits for a sink. -/
def flushSink (s : Sink) : Running Sink := do
  if s.pending.isEmpty then pure s
  else
    match ← step (Prog.write s.descriptor s.pending.reverse.flatten) with
    | .ok () => pure { s with pending := [], size := 0 }
    | .error e => failedWriting e

/-- Writes all that waits. -/
def flushAll : Running Unit := do
  flushMain
  let sinks ← (← see fun m => m.sinks).mapM flushSink
  change fun m => { m with sinks := sinks }

/-- Whether a name is that of the output of the tool. -/
def isMain (name : Text) : Bool := name == "/dev/stdout".toList

/-- Starts a command that is read from or written to. -/
def startCommand (reads : Bool) (command : Text) : Running (Nat × Nat) := do
  flushAll
  act do
    let report (c : Text) (e : Files.Fault) : Text := c ++ ": ".toList ++ e.wording
    launchPiped reads report ["/bin/sh".toList, "-c".toList, command] (← environment)

/-- Opens a sink. -/
def openSink (way : Way) (name : Text) : Running Sink := do
  match way with
  | .command =>
    let (process, d) ← startCommand false name
    pure ⟨true, name, d, some process, [], 0⟩
  | way =>
    let wanted := if way = .append then Wanted.appending else Wanted.writing
    match ← step (Prog.open_ 3 name wanted Prog.openMode) with
    | .ok d => pure ⟨false, name, d, none, [], 0⟩
    | .error e =>
      giveUp ("cannot open \"".toList ++ name ++ "\" for output (".toList ++ e.wording ++ [')'])

/-- Writes to a file or a command. -/
def emit (way : Way) (name t : Text) : Running Unit := do
  let isCommand := way == .command
  if !isCommand && isMain name then say t
  else if !isCommand && name == "/dev/stderr".toList then step (Prog.put 2 t)
  else
    let isIt (s : Sink) : Bool := s.isCommand == isCommand && s.name == name
    let s ← match ← see fun m => m.sinks.find? isIt with
      | some s => pure s
      | none => openSink way name
    let s : Sink := { s with pending := t :: s.pending, size := s.size + t.length }
    let s ← if s.size ≥ bufferSize then flushSink s else pure s
    change fun m => { m with sinks := s :: m.sinks.filter fun s => !isIt s }

/-- The status of something that has ended. -/
def endingValue (e : Ending) : Nat :=
  match e with
  | .exited n => n
  | .killed n => 256 + n

/-- Closes a sink and answers its status. -/
def closeSink (s : Sink) : Running Nat := do
  let s ← flushSink s
  step (Prog.close s.descriptor)
  match s.process with
  | some id => do pure (endingValue (← step (Prog.collect id)))
  | none => pure 0

/-- Closes a stream and answers its status. -/
def closeStream (s : Stream) : Running Nat := do
  if s.descriptor ≠ 0 then step (Prog.close s.descriptor)
  match s.process with
  | some id => do pure (endingValue (← step (Prog.collect id)))
  | none => pure 0

/-- Closes what has a name, and answers its status. -/
def close (name : Text) : Running Int := do
  let (sinks, streams) ← update fun m =>
    let (sinks, others) := m.sinks.partition fun s => s.name == name
    let (sources, rest) := m.sources.partition fun ((_, n), _) => n == name
    ((sinks, sources.map Prod.snd), { m with sinks := others, sources := rest })
  let fromSinks ← sinks.mapM closeSink
  let fromStreams ← streams.mapM closeStream
  pure (match fromSinks ++ fromStreams with
    | [] => -1
    | n :: _ => n)

/-- Closes all sinks. Commands end before the output of the tool is written. -/
def closeAll : Running Unit := do
  let sinks ← update fun m => (m.sinks, { m with sinks := [] })
  let _ ← sinks.mapM closeSink
  flushMain

/-! ### Input -/

/-- How much is read at once. -/
def pieceSize : Nat := 262144

/-- Reads pieces until there is enough. -/
def fill : Nat → List Text → Nat → Stream → Running Stream
  | 0, done, _, s => pure { s with buffered := done.reverse.flatten, isDone := true }
  | fuel + 1, done, size, s => do
    if size ≥ pieceSize then pure { s with buffered := done.reverse.flatten }
    else
      match ← step (Prog.await fun w => w.read? s.descriptor (pieceSize - size)) with
      | .error e => giveUp ("read error (".toList ++ e.wording ++ [')'])
      | .ok [] => pure { s with buffered := done.reverse.flatten, isDone := true }
      | .ok t => fill fuel (t :: done) (size + t.length) s

/-- Takes the next record of a stream. -/
def takeRecord : Nat → Stream → Running (Option Text × Stream)
  | 0, s => pure (none, s)
  | fuel + 1, s => do
    match (← see fun m => m.recordSeparator).record? s.isDone s.buffered with
    | some (t, rest) => pure (some t, { s with buffered := rest })
    | none =>
      if s.isDone then pure (none, s)
      else
        let kept : List Text := if s.buffered.isEmpty then [] else [s.buffered]
        let s ← fill Prog.manyPieces kept 0 s
        takeRecord fuel s

/-- Sets a variable by its name, as an argument says. -/
def assignNamed (script : Script) (name value : Text) : Running Unit := do
  let v := Value.input value
  if name == "NF".toList then setFieldCount v
  else
    match script.names.idxOf? name with
    | some n => setGlobal n v
    | none => pure ()

/-- Opens a file to be read. Some names stand for the input of the tool. -/
def openFile (name : Text) : Running (Except Files.Fault Stream) := do
  if name == ['-'] || name == "/dev/stdin".toList then pure (.ok ⟨0, none, [], false⟩)
  else
    match ← step (Prog.open_ 3 name .reading 0) with
    | .ok d => pure (.ok ⟨d, none, [], false⟩)
    | .error e => pure (.error e)

/-- Begins with a file whose records are gone through. -/
def beginFile (name : Text) : Running Unit := do
  match ← openFile name with
  | .error e => giveUp ("cannot open \"".toList ++ name ++ "\" (".toList ++ e.wording ++ [')'])
  | .ok s =>
    change fun m => { m with input := some s, hasFile := true }
    setSlot Slot.fileName (.input name)
    setSlot Slot.fileRecords (.ofNat 0)

/-- Whether a text begins with the name of a variable and an equals sign. -/
def isAssignment (t : Text) : Bool :=
  let isFirst (c : Char) : Bool := c.isAlpha || c == '_'
  let name := t.takeWhile fun c => c.isAlphanum || c == '_'
  name.head?.any isFirst && (t.drop name.length).head? == some '='

/-- Goes through the arguments up to the next file. -/
def nextFile (script : Script) : Nat → Running Bool
  | 0 => pure false
  | fuel + 1 => do
    let n ← see fun m => m.nextArgument
    let count := (← global Slot.argumentCount).toNumber.toShort
    if n ≥ count then
      if ← see fun m => m.hasFile then
        change fun m => { m with isThrough := true }
        pure false
      else
        beginFile ['-']
        pure true
    else
      change fun m => { m with nextArgument := n + 1 }
      let v ← see fun m =>
        (m.tables.getD Slot.arguments .empty).values.getD (Text.ofNat n) .unset
      let t ← textOf v
      if t.isEmpty then nextFile script fuel
      else if isAssignment t then
        let (name, value) := (assignment? t).getD (t, [])
        assignNamed script name value
        nextFile script fuel
      else
        beginFile t
        pure true

/-- How many turns there are at most. -/
def mostTurns : Nat := 1000000000000

/-- Takes the next record of the files that are gone through. -/
def nextRecord (script : Script) : Nat → Running (Option Text)
  | 0 => pure none
  | fuel + 1 => do
    match ← update fun m => (m.input, { m with input := none }) with
    | none =>
      if ← see fun m => m.isThrough then pure none
      else if ← nextFile script mostTurns then nextRecord script fuel
      else pure none
    | some s =>
      let (t?, s) ← takeRecord mostTurns s
      match t? with
      | some t =>
        change fun m => { m with input := some s }
        pure (some t)
      | none =>
        let _ ← closeStream s
        nextRecord script fuel

/-- Leaves the file whose records are gone through. -/
def leaveFile : Running Unit := do
  match ← update fun m => (m.input, { m with input := none }) with
  | some s => do
    let _ ← closeStream s
  | none => pure ()

/-- Counts up a variable of the script. -/
def countUp (n : Nat) : Running Unit := do
  let v ← global n
  setSlot n (.number (v.toNumber.combine (· + ·) .one))

/-- Counts a record. -/
def countRecord : Running Unit := do
  countUp Slot.records
  countUp Slot.fileRecords

/-- Takes the next record of a command or a file; an answer of its own tells that there is none
    such. -/
def recordFrom (isCommand : Bool) (name : Text) : Running (Except Unit (Option Text)) := do
  let isIt (k : Bool × Text) : Bool := k.1 == isCommand && k.2 == name
  let found ← update fun m =>
    (m.sources.find? fun (k, _) => isIt k,
      { m with sources := m.sources.filter fun (k, _) => !isIt k })
  let s? : Option Stream ← match found with
    | some (_, s) => pure (some s)
    | none =>
      if isCommand then do
        let (process, d) ← startCommand true name
        pure (some ⟨d, some process, [], false⟩)
      else do pure (← openFile name).toOption
  match s? with
  | none => pure (.error ())
  | some s =>
    let (t?, s) ← takeRecord mostTurns s
    change fun m => { m with sources := ((isCommand, name), s) :: m.sources }
    pure (.ok t?)

end Running

end Console.Host.Tool.Awk
