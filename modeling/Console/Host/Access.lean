import Console.Host.Change
import Console.Host.Process

/-! Opening files by their paths. What is opened gets a descriptor of the process. The paths of
    descriptors lead to what those lead to, and a pipe with a name is opened when both of its ends
    are. -/

namespace Console.Host

/-- How a file is opened. -/
structure Wanted where
  reads : Bool
  writes : Bool
  /-- Whether the file is made if it is missing. -/
  makes : Bool
  /-- Whether it must be missing. -/
  onlyNew : Bool
  empties : Bool
  appends : Bool

namespace Wanted

/-- A file that is read. -/
def reading : Wanted := ⟨true, false, false, false, false, false⟩

/-- A file that is written from its beginning, without what it held before. -/
def writing : Wanted := ⟨false, true, true, false, true, false⟩

/-- A file that is written at its end. -/
def appending : Wanted := ⟨false, true, true, false, false, true⟩

/-- A file that is read and written. -/
def updating : Wanted := ⟨true, true, true, false, false, false⟩

/-- A file that is written and was not there before. -/
def creating : Wanted := ⟨false, true, true, true, false, false⟩

/-- A file that is written if it is there. -/
def overwriting : Wanted := ⟨false, true, false, false, false, false⟩

end Wanted

namespace Kernel

/-- The descriptor that a path names. -/
def descriptorOf? (t : Text) : Option Nat :=
  let numbered (lead : String) : Option Nat :=
    (lead.toList.isPrefixOf? t).bind Text.toNat?
  if t = "/dev/stdin".toList then some 0
  else if t = "/dev/stdout".toList then some 1
  else if t = "/dev/stderr".toList then some 2
  else (numbered "/dev/fd/").orElse fun _ => numbered "/proc/self/fd/"

/-- What is opened at a node. -/
def openingOf (n : Nat) (wanted : Wanted) : Opening :=
  ⟨.node n, 0, wanted.reads, wanted.writes, wanted.appends⟩

/-- The mode of something that is made with the mask of the process. -/
def masked (w : Kernel) (mode : Nat) : Nat := Nat.land mode (4095 - w.self.mask % 4096)

/-- The pipe of a node that is one, which is made when the node is first opened. -/
def pipeOf (w : Kernel) (n : Nat) : Nat × Kernel :=
  match w.named.lookup n with
  | some pipe => (pipe, w)
  | none =>
    let (pipe, w) := w.addPipe false
    (pipe, { w with named := (n, pipe) :: w.named })

/-- Opens a node that is there. -/
def openNode (w : Kernel) (n : Nat) (wanted : Wanted) : Except Files.Fault (Opening × Kernel) :=
  if wanted.onlyNew then .error .alreadyExists
  else
    match (w.files.node? n).map Node.content with
    | none => .error .notFound
    | some (.directory _ _) =>
      if wanted.writes then .error .isDirectory else .ok (openingOf n wanted, w)
    | some (.device .terminal) => .error .noDevice
    | some .pipe =>
      let (pipe, w) := w.pipeOf n
      let target : Target := if wanted.reads && !wanted.writes then .source pipe else .sink pipe
      let w := w.updatePipe pipe fun p =>
        let (sources, sinks) := p.meetings
        { p with meetings :=
            (if wanted.reads then sources + 1 else sources,
              if wanted.writes then sinks + 1 else sinks) }
      .ok (⟨target, 0, wanted.reads, wanted.writes, false⟩, w)
    | some (.file _) =>
      let files := if wanted.empties then w.files.setContent n (.file ByteArray.empty) else w.files
      .ok (openingOf n wanted, { w with files := files })
    | some _ => .ok (openingOf n wanted, w)

/-- Opens what a path names. -/
def openPath (w : Kernel) (t : Text) (wanted : Wanted) (mode : Nat) :
    Except Files.Fault (Opening × Kernel) :=
  let base := w.self.directory
  match descriptorOf? t with
  | some d =>
    match w.opening? d with
    | none => if (w.files.find? base t).isSome then .error .noDevice else .error .notFound
    | some o =>
      match o.target with
      | .node n => w.openNode n { wanted with onlyNew := false }
      | .source pipe | .sink pipe =>
        let target : Target := if wanted.writes then .sink pipe else .source pipe
        .ok (⟨target, 0, wanted.reads, wanted.writes, wanted.appends⟩, w)
  | none =>
    match w.files.resolve base t (!wanted.onlyNew) with
    | .error e => .error e
    | .ok (.there n) =>
      if t.getLast? = some '/' && wanted.makes then .error .isDirectory else w.openNode n wanted
    | .ok (.free d name slash) =>
      if !wanted.makes then .error .notFound
      else if slash then .error .isDirectory
      else
        let (n, files) := w.files.add d name (.file ByteArray.empty) (w.masked mode)
        .ok (openingOf n wanted, { w with files := files })

/-- How often the other end of what a descriptor leads to has been opened, if it is a pipe. -/
def metAt (w : Kernel) (descriptor : Nat) : Option (Nat × Nat) := do
  let o ← w.opening? descriptor
  match o.target with
  | .node _ => none
  | .source pipe => (w.pipes.lookup pipe).map fun p => (pipe, p.meetings.2)
  | .sink pipe => if o.reads then none else (w.pipes.lookup pipe).map fun p => (pipe, p.meetings.1)

end Kernel

namespace Prog

/-- The bits that a file gets which is made by opening it. -/
def openMode : Nat := 0o666

/-- Opens a file for the lowest descriptor that is free from a number on, and answers the
    descriptor. A pipe is waited for until its other end is opened. -/
def open_ (least : Nat) (t : Text) (wanted : Wanted) (mode : Nat) :
    Prog (Except Files.Fault Nat) := do
  let opened : Except Files.Fault Nat ← act fun w =>
    match w.openPath t wanted mode with
    | .error e => (.error e, w)
    | .ok (o, w) =>
      let d := w.freeDescriptor least
      (.ok d, w.connectTo d o)
  match opened with
  | .error e => pure (.error e)
  | .ok d =>
    let isNamed ← see fun w =>
      match w.metAt d with
      | some (pipe, met) => if w.named.any fun (_, p) => p == pipe then some met else none
      | none => none
    match isNamed with
    | none => pure (.ok d)
    | some met =>
      await fun w =>
        let other := match w.opening? d with
          | some ⟨.source pipe, _, _, _, _⟩ => w.hasWriter pipe
          | some ⟨.sink pipe, _, _, _, _⟩ => w.hasReader pipe
          | _ => true
        let hasMet := other || (w.metAt d).any fun (_, n) => n != met
        if hasMet then some (.ok d, w) else none

/-- Closes a descriptor. -/
def close (descriptor : Nat) : Prog Unit := act fun w => ((), w.close descriptor)

/-- Changes the files, unless that fails. The function gets the directory of the process. -/
def change (f : Files → Nat → Except Files.Fault Files) : Prog (Except Files.Fault Unit) :=
  act fun w =>
    match f w.files w.self.directory with
    | .error e => (.error e, w)
    | .ok files => (.ok (), { w with files := files })

/-- Looks at the files from the directory of the process. -/
def look {α : Type} (f : Files → Nat → α) : Prog α := see fun w => f w.files w.self.directory

end Prog

end Console.Host
