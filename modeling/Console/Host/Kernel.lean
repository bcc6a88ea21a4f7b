import Console.Files

/-! What processes share: the files, the descriptors through which they read and write, the pipes
    between them, and how each of them fares. -/

namespace Console.Host

/-- How a process has ended. -/
inductive Ending where
  | exited (status : Nat)
  | killed (signal : Nat)
  deriving DecidableEq, Repr

/-- What is read from or written to. -/
inductive Target where
  | node (n : Nat)
  /-- The end of a pipe that is read. -/
  | source (pipe : Nat)
  /-- The end of a pipe that is written. -/
  | sink (pipe : Nat)
  deriving DecidableEq, Repr

/-- Something that has been opened, with the offset at which it goes on. -/
structure Opening where
  target : Target
  offset : Nat
  reads : Bool
  writes : Bool
  /-- Whether all that is written goes to the end. -/
  appends : Bool
  deriving DecidableEq, Repr

/-- What is on its way through a pipe. -/
structure Pipe where
  front : Text
  /-- What comes behind the front, the last piece first. -/
  back : List Text
  size : Nat
  /-- Whether the pipe leads out of the system, where it is always read. -/
  leadsOut : Bool
  /-- How often it has been opened to be read and to be written. -/
  meetings : Nat × Nat

/-- A process: who waits for it, what it has opened, and which signals it has got. -/
structure Task where
  id : Nat
  parent : Nat
  /-- The openings of its descriptors. -/
  descriptors : List (Nat × Nat)
  /-- The directory from which it sees paths. -/
  directory : Nat
  /-- The bits that files it makes do not get. -/
  mask : Nat
  /-- The signals that have no effect on it. -/
  ignored : List Nat
  /-- The signals that it deals with itself. -/
  caught : List Nat
  /-- The signals that have come and that it has not yet dealt with. -/
  pending : List Nat
  /-- How it has ended, as long as nobody has asked for it. -/
  ending : Option Ending

/-- The state that processes share. -/
structure Kernel where
  files : Files
  openings : List (Nat × Opening)
  pipes : List (Nat × Pipe)
  /-- The pipes of the nodes that are pipes. -/
  named : List (Nat × Nat)
  tasks : List Task
  /-- The process that runs. -/
  current : Nat
  /-- A number that nothing has yet. -/
  next : Nat
  /-- Whether something has happened for which a process may wait. -/
  stirred : Bool

/-- Why octets cannot be read or written. -/
inductive Obstacle where
  | notOpen
  | isDirectory
  | noSpace
  | brokenPipe
  deriving DecidableEq, Repr

/-- The wording of an obstacle. -/
def Obstacle.wording : Obstacle → Text
  | .notOpen => "Bad file descriptor".toList
  | .isDirectory => Files.Fault.isDirectory.wording
  | .noSpace => Files.Fault.noSpace.wording
  | .brokenPipe => "Broken pipe".toList

/-- Whether an opening leads to a pipe. -/
def Opening.isOfPipe (o : Opening) (pipe : Nat) : Bool :=
  o.target == .source pipe || o.target == .sink pipe

/-- Takes octets from a pipe. -/
def Pipe.take (p : Pipe) (count : Nat) : Text × Pipe :=
  let p : Pipe :=
    if p.front.isEmpty then { p with front := p.back.reverse.flatten, back := [] } else p
  let t := p.front.take count
  (t, { p with front := p.front.drop count, size := p.size - t.length })

namespace Kernel

/-! ### Processes -/

/-- A process of which nothing is known. -/
def nobody : Task := ⟨0, 0, [], Files.root, 0, [], [], [], none⟩

/-- The process of a number. -/
def task? (w : Kernel) (id : Nat) : Option Task := w.tasks.find? fun t => t.id == id

/-- The process that runs. -/
def self (w : Kernel) : Task := (w.task? w.current).getD nobody

/-- Whether a process is still running. -/
def isAlive (w : Kernel) (id : Nat) : Bool := (w.task? id).any fun t => t.ending.isNone

/-- Changes a process. -/
def updateTask (w : Kernel) (id : Nat) (f : Task → Task) : Kernel :=
  { w with tasks := w.tasks.map fun t => if t.id == id then f t else t }

/-- Changes the process that runs. -/
def updateSelf (w : Kernel) (f : Task → Task) : Kernel := w.updateTask w.current f

/-- Whether a process holds an opening. -/
def isHeld (w : Kernel) (opening : Nat) : Bool :=
  w.tasks.any fun t => t.descriptors.any fun (_, o) => o == opening

/-- Forgets the openings that no process holds any more, and the pipes that nothing leads to. -/
def settle (w : Kernel) : Kernel :=
  let openings := w.openings.filter fun (n, _) => w.isHeld n
  if openings.length = w.openings.length then w
  else
    let inUse (pipe : Nat) : Bool := openings.any fun (_, o) => o.isOfPipe pipe
    { w with
      openings := openings
      pipes := w.pipes.filter fun (n, p) => p.leadsOut || inUse n
      named := w.named.filter fun (_, n) => inUse n
      stirred := true }

/-- Lets a process end. What it has opened is closed, and its own processes are nobody's. -/
def finish (w : Kernel) (id : Nat) (ending : Ending) : Kernel :=
  let isWanted (t : Task) : Bool := t.ending.isNone || w.isAlive t.parent
  let tasks := w.tasks.map fun t =>
    if t.id == id && t.ending.isNone then { t with descriptors := [], ending := some ending }
    else if t.parent == id then { t with parent := 0 }
    else t
  ({ w with tasks := tasks.filter isWanted, stirred := true } : Kernel).settle

/-- Makes a process like the one that runs, and answers its number. -/
def fork (w : Kernel) : Nat × Kernel :=
  let child : Task :=
    { w.self with id := w.next, parent := w.current, pending := [], ending := none }
  (w.next, { w with tasks := w.tasks ++ [child], next := w.next + 1 })

/-- How a process has ended, if it has; it is then forgotten. -/
def collect? (w : Kernel) (id : Nat) : Option (Ending × Kernel) := do
  let ending ← (← w.task? id).ending
  pure (ending, { w with tasks := w.tasks.filter fun t => t.id != id })

/-! ### Signals -/

/-- The signals without effect on a process that does not catch them. Those that would stop it are
    among them. -/
def harmless : List Nat := [17, 18, 19, 20, 21, 22, 23, 28]

/-- The signal that cannot be ignored. -/
def killSignal : Nat := 9

/-- The signal that comes from a pipe which nobody reads. -/
def pipeSignal : Nat := 13

/-- Sends a signal to a process. Number zero only asks whether there is one. -/
def signal (w : Kernel) (id number : Nat) : Kernel :=
  match w.task? id with
  | none => w
  | some t =>
    if number = 0 || t.ending.isSome then w
    else if number = killSignal then w.finish id (.killed number)
    else if t.ignored.contains number then w
    else if t.caught.contains number then
      let w := w.updateTask id fun t => { t with pending := t.pending ++ [number] }
      { w with stirred := true }
    else if harmless.contains number then w
    else w.finish id (.killed number)

/-! ### Descriptors -/

/-- The number of the opening of a descriptor. -/
def openingNumber? (w : Kernel) (descriptor : Nat) : Option Nat :=
  w.self.descriptors.lookup descriptor

/-- The opening of a descriptor. -/
def opening? (w : Kernel) (descriptor : Nat) : Option Opening :=
  (w.openingNumber? descriptor).bind fun n => w.openings.lookup n

/-- Changes the descriptors of the process that runs. -/
def setDescriptors (w : Kernel) (l : List (Nat × Nat)) : Kernel :=
  (w.updateSelf fun t => { t with descriptors := l }).settle

/-- Lets a descriptor lead to an opening. -/
def connect (w : Kernel) (descriptor opening : Nat) : Kernel :=
  w.setDescriptors
    ((descriptor, opening) :: w.self.descriptors.filter fun (d, _) => d != descriptor)

/-- Closes a descriptor. -/
def close (w : Kernel) (descriptor : Nat) : Kernel :=
  w.setDescriptors (w.self.descriptors.filter fun (d, _) => d != descriptor)

/-- Lets a descriptor lead to something that is now opened. -/
def connectTo (w : Kernel) (descriptor : Nat) (opening : Opening) : Kernel :=
  ({ w with openings := (w.next, opening) :: w.openings, next := w.next + 1 } : Kernel).connect
    descriptor w.next

/-- The lowest descriptor that leads nowhere, from a number on. -/
def freeDescriptor (w : Kernel) (least : Nat) : Nat :=
  let used := w.self.descriptors.map Prod.fst
  (((List.range (used.length + 1)).map (· + least)).find? fun d => !used.contains d).getD least

/-- Makes a pipe without ends. -/
def addPipe (w : Kernel) (leadsOut : Bool) : Nat × Kernel :=
  let pipes := (w.next, ⟨[], [], 0, leadsOut, (0, 0)⟩) :: w.pipes
  (w.next, { w with pipes := pipes, next := w.next + 1 })

/-- The reading end of a pipe. -/
def sourceOf (pipe : Nat) : Opening := ⟨.source pipe, 0, true, false, false⟩

/-- The writing end of a pipe. -/
def sinkOf (pipe : Nat) : Opening := ⟨.sink pipe, 0, false, true, false⟩

/-- Whether a pipe can still be written to. -/
def hasWriter (w : Kernel) (pipe : Nat) : Bool :=
  w.openings.any fun (_, o) => o.isOfPipe pipe && o.writes

/-- Whether a pipe is read by somebody. -/
def hasReader (w : Kernel) (pipe : Nat) : Bool :=
  w.openings.any fun (_, o) => o.isOfPipe pipe && o.reads

/-- Changes a pipe. -/
def updatePipe (w : Kernel) (pipe : Nat) (f : Pipe → Pipe) : Kernel :=
  { w with
    pipes := w.pipes.map fun (n, p) => if n == pipe then (n, f p) else (n, p)
    stirred := true }

/-- Changes an opening. -/
def updateOpening (w : Kernel) (opening : Nat) (f : Opening → Opening) : Kernel :=
  { w with openings := w.openings.map fun (n, o) => if n == opening then (n, f o) else (n, o) }

/-! ### Reading -/

/-- The octets of a node from an offset on, so many at most. -/
def octetsAt (files : Files) (n offset count : Nat) : Except Obstacle Text :=
  match (files.node? n).map Node.content with
  | some (.file bytes) => .ok (Octets.ofBytes (bytes.extract offset (offset + count)))
  | some (.directory _ _) => .error .isDirectory
  | some (.device .zero) | some (.device .full) => .ok (List.replicate count '\x00')
  | _ => .ok []

/-- Reads so many octets at most from a descriptor; at the end of what there is, none. Where octets
    may still come there is no answer yet. -/
def read? (w : Kernel) (descriptor count : Nat) : Option (Except Obstacle Text × Kernel) :=
  match w.openingNumber? descriptor, w.opening? descriptor with
  | some i, some o =>
    if !o.reads then some (.error .notOpen, w)
    else
      match o.target with
      | .node n =>
        match octetsAt w.files n o.offset count with
        | .error e => some (.error e, w)
        | .ok t => some (.ok t, w.updateOpening i fun o => { o with offset := o.offset + t.length })
      | .source pipe | .sink pipe =>
        match w.pipes.lookup pipe with
        | none => some (.ok [], w)
        | some p =>
          if p.size > 0 then
            let (t, p) := p.take count
            some (.ok t, w.updatePipe pipe fun _ => p)
          else if w.hasWriter pipe then none
          else some (.ok [], w)
  | _, _ => some (.error .notOpen, w)

/-- Gives back octets of a file that were read but are not used. -/
def unread (w : Kernel) (descriptor count : Nat) : Kernel :=
  match w.openingNumber? descriptor with
  | some i => w.updateOpening i fun o => { o with offset := o.offset - count }
  | none => w

/-- Whether octets that were read from a descriptor can be given back. -/
def canUnread (w : Kernel) (descriptor : Nat) : Bool :=
  match (w.opening? descriptor).map Opening.target with
  | some (.node n) => w.files.isFile n
  | _ => false

/-! ### Writing -/

/-- How much a pipe holds. -/
def pipeCapacity : Nat := 65536

/-- Puts octets into the bytes of a file at an offset. -/
def overwrite (bytes : ByteArray) (offset : Nat) (t : Text) : ByteArray :=
  if offset = bytes.size then t.foldl (fun b c => b.push (UInt8.ofNat c.toNat)) bytes
  else
    let front := bytes.extract 0 offset
    let gap : ByteArray := ⟨Array.replicate (offset - front.size) 0⟩
    front ++ gap ++ Octets.toBytes t ++ bytes.extract (offset + t.length) bytes.size

/-- Writes octets to a node. -/
def writeToNode (w : Kernel) (i : Nat) (o : Opening) (n : Nat) (t : Text) :
    Except Obstacle Nat × Kernel :=
  match (w.files.node? n).map Node.content with
  | some (.device .full) => if t.isEmpty then (.ok 0, w) else (.error .noSpace, w)
  | some (.file bytes) =>
    let offset := if o.appends then bytes.size else o.offset
    let files := w.files.setContent n (.file (overwrite bytes offset t))
    (.ok t.length,
      ({ w with files := files } : Kernel).updateOpening i fun o =>
        { o with offset := offset + t.length })
  | some (.directory _ _) => (.error .isDirectory, w)
  | _ => (.ok t.length, w)

/-- Writes octets to a descriptor, as many as there is room for, and answers how many. As long as
    there is room for none there is no answer yet. -/
def write? (w : Kernel) (descriptor : Nat) (t : Text) : Option (Except Obstacle Nat × Kernel) :=
  match w.openingNumber? descriptor, w.opening? descriptor with
  | some i, some o =>
    if !o.writes then some (.error .notOpen, w)
    else
      match o.target with
      | .node n => some (w.writeToNode i o n t)
      | .source pipe | .sink pipe =>
        match w.pipes.lookup pipe with
        | none => some (.error .brokenPipe, w)
        | some p =>
          if t.isEmpty then some (.ok 0, w)
          else if p.leadsOut then
            some (.ok t.length, w.updatePipe pipe fun p => { p with back := t :: p.back })
          else if !w.hasReader pipe then
            some (.error .brokenPipe, w.signal w.current pipeSignal)
          else if p.size ≥ pipeCapacity then none
          else
            let t := t.take (pipeCapacity - p.size)
            some (.ok t.length, w.updatePipe pipe fun p =>
              { p with back := t :: p.back, size := p.size + t.length })
  | _, _ => some (.error .notOpen, w)

/-- What has left the system through a pipe. -/
def output (w : Kernel) (pipe : Nat) : Text :=
  match w.pipes.lookup pipe with
  | some p => p.back.reverse.flatten
  | none => []

end Kernel

end Console.Host
