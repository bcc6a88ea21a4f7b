import Console.Host.Builtin.Variables
import Console.Host.Parser

/-! The parts of expansion that run no commands: the values of parameters, home directories, and
    descriptors that redirections replace for a while. -/

namespace Console.Host

/-! ### Parameters -/

namespace Machine

/-- What stands between positional parameters that are joined. -/
def joint (m : Machine) : Text := m.separators.take 1

/-- Whether a name is that of all positional parameters. -/
def isAll (name : Text) : Bool := name == ['@'] || name == ['*']

/-- The value of a parameter. -/
def parameter? (m : Machine) (name : Text) : Option Text :=
  match name with
  | ['?'] => some (Text.ofNat m.status)
  | ['#'] => some (Text.ofNat m.parameters.length)
  | ['$'] => some (Text.ofNat m.shellId)
  | ['!'] => m.lastJob.map Text.ofNat
  | ['-'] => some (Builtin.optionLetters m)
  | ['0'] => some m.name
  | ['@'] | ['*'] => some (Text.join m.joint m.parameters)
  | _ =>
    match Text.toNat? name with
    | some 0 => some m.name
    | some n => m.parameters[n - 1]?
    | none => m.value? name

/-- The pieces of all positional parameters. -/
def parameterAtoms (m : Machine) (name : Text) (inQuotes : Bool) : List Atom :=
  if name = ['*'] && inQuotes then Atom.ofValue true (Text.join m.joint m.parameters)
  else if inQuotes then
    ((m.parameters.map (Atom.ofValue true)).intersperse [.boundary true]).flatten
  else
    .edge :: ((m.parameters.map fun t => t.map Atom.value).intersperse [.boundary false]).flatten

end Machine

/-- What is reported of a parameter without value. -/
def unsetMessage (name : Text) (filled : Bool) (message : Option Text) : Text :=
  name ++ ": ".toList ++ match message with
    | some t => t
    | none => (if filled then "parameter not set or null" else "parameter not set").toList

/-! ### Home directories -/

/-- The home directory of a user, as the list of users tells it. -/
def homeIn (users user : Text) : Option Text :=
  (Text.splitOn '\n' users).findSome? fun line =>
    let fields := Text.splitOn ':' line
    if fields.head? = some user then fields[5]? else none

/-- The home directory of a user; without a name it is that of the variable. -/
def homeOf (user : Text) : Run (Option Text) := do
  if user.isEmpty then pure ((← get).value? "HOME".toList)
  else
    let users ← (Prog.look fun files base => files.read base "/etc/passwd".toList : Prog _)
    pure (users.toOption.bind fun bytes => homeIn (Octets.ofBytes bytes) user)

/-- A text that can begin with a tilde, which a home directory replaces. The name behind the tilde
    must be there as a whole. -/
def tildeText (isWhole : Bool) (t : Text) : Run (List Part) := do
  match t with
  | '~' :: rest =>
    let user := rest.takeWhile (· != '/')
    let behind := rest.drop user.length
    if behind.isEmpty && !isWhole then pure [.plain t]
    else
      match ← homeOf user with
      | some home => pure [.quoted home, .plain behind]
      | none => pure [.plain t]
  | t => pure [.plain t]

/-- The texts between colons, of which each can begin with a tilde. -/
def tildeTexts (isWhole : Bool) : List Text → Run (List Part)
  | [] => pure []
  | [t] => tildeText isWhole t
  | t :: rest => do
    let first ← tildeText true t
    let others ← tildeTexts isWhole rest
    pure (first ++ .plain [':'] :: others)

/-- Replaces tildes at the beginning of a word, and behind colons where that is asked for. -/
def expandTildes (colons : Bool) : Bool → List Part → Run (List Part)
  | _, [] => pure []
  | atStart, .plain t :: rest => do
    let isWhole := rest.isEmpty
    let first ←
      if !t.elem '~' then pure [Part.plain t]
      else if colons then
        match Text.splitOn ':' t with
        | [] => pure []
        | [u] => if atStart then tildeText isWhole u else pure [.plain u]
        | u :: us =>
          let head ← if atStart then tildeText true u else pure [Part.plain u]
          let others ← tildeTexts isWhole us
          pure (head ++ .plain [':'] :: others)
      else if atStart then tildeText isWhole t
      else pure [.plain t]
    let others ← expandTildes colons false rest
    pure (first ++ others)
  | _, part :: rest => do
    let others ← expandTildes colons false rest
    pure (part :: others)

/-! ### Redirections -/

/-- A redirection whose words are known. -/
inductive Redirected where
  | open_ (descriptor : Nat) (path : Text) (wanted : Wanted) (forced : Bool)
  | copy (descriptor source : Nat)
  | close (descriptor : Nat)
  | document (descriptor : Nat) (text : List Part)

namespace Redirected

/-- The descriptor that is redirected. -/
def descriptor : Redirected → Nat
  | .open_ d _ _ _ | .copy d _ | .close d | .document d _ => d

/-- What is reported of a path that cannot be opened. -/
def message (path : Text) (wanted : Wanted) (fault : Files.Fault) : Text :=
  let isMissing := fault = .notFound ∨ fault = .notDirectory
  if wanted.makes then
    "cannot create ".toList ++ path ++ ": ".toList ++
      (if isMissing then "Directory nonexistent".toList else fault.wording)
  else
    "cannot open ".toList ++ path ++ ": ".toList ++
      (if isMissing then "No such file".toList else fault.wording)

end Redirected

namespace Kernel

/-- Keeps what a descriptor leads to under a number above those of scripts. -/
def keep (w : Kernel) (descriptor : Nat) : Option Nat × Kernel :=
  match w.openingNumber? descriptor with
  | none => (none, w)
  | some o =>
    let d := w.freeDescriptor 10
    (some d, w.connect d o)

/-- Lets a descriptor lead again to what was kept. -/
def restore (w : Kernel) : Nat × Option Nat → Kernel
  | (descriptor, none) => w.close descriptor
  | (descriptor, some kept) =>
    match w.openingNumber? kept with
    | none => w
    | some o => (w.connect descriptor o).close kept

/-- Closes what was kept. -/
def forget (w : Kernel) : Nat × Option Nat → Kernel
  | (_, none) => w
  | (_, some kept) => w.close kept

end Kernel

/-- Begins to note what redirections replace. -/
def pushFrame : Run Unit := modify fun m => { m with frames := [] :: m.frames }

/-- Ends redirections, unless they are to stay. -/
def popFrame (stays : Bool) : Run Unit := do
  let m ← get
  match m.frames with
  | [] => pure ()
  | frame :: frames =>
    set { m with frames := frames }
    if !frame.isEmpty then
      (Prog.act fun w => ((), frame.foldl (if stays then Kernel.forget else Kernel.restore) w) :
        Prog Unit)

/-- Notes what a descriptor led to before it is redirected for the first time. -/
def keepDescriptor (descriptor : Nat) : Run Unit := do
  let m ← get
  match m.frames with
  | [] => pure ()
  | frame :: frames =>
    if (frame.lookup descriptor).isNone then
      let kept ← (Prog.act fun w => w.keep descriptor : Prog (Option Nat))
      set { m with frames := ((descriptor, kept) :: frame) :: frames }

/-- The descriptor of traces: that for errors as it was before the command's own redirections. -/
def traceDescriptor (m : Machine) : Nat :=
  (((m.frames.head?.getD []).lookup 2).bind id).getD 2

/-- Lets a descriptor lead where another one does, which is closed if it was opened for that. -/
def moveDescriptor (descriptor source : Nat) (closes : Bool) : Run Unit :=
  (Prog.act fun w =>
    match w.openingNumber? source with
    | none => ((), w)
    | some o =>
      let w := w.connect descriptor o
      ((), if closes then w.close source else w) : Prog Unit)

/-- Opens a file for a descriptor. Where files are protected, one that is there is not written
    unless that is forced or it is no regular file. -/
def openFor (descriptor : Nat) (path : Text) (wanted : Wanted) (forced : Bool) : Run Unit := do
  let isProtected := (← get).has 'C' && wanted.empties && !forced
  let wanted ←
    if !isProtected then pure wanted
    else
      let found ← (Prog.look fun files base =>
        (files.find? base path).map fun n => files.isFile n : Prog (Option Bool))
      match found with
      | some true => fail (Redirected.message path wanted .alreadyExists)
      | some false => pure .overwriting
      | none => pure .creating
  match ← (Prog.open_ 10 path wanted Prog.openMode : Prog _) with
  | .error e => fail (Redirected.message path wanted e)
  | .ok d =>
    keepDescriptor descriptor
    moveDescriptor descriptor d true

/-- Lets a descriptor lead where another one does. -/
def copyFor (descriptor source : Nat) : Run Unit := do
  if descriptor ≠ source then
    let isOpen ← (Prog.see fun w => (w.openingNumber? source).isSome : Prog Bool)
    if !isOpen then fail (Text.ofNat source ++ ": ".toList ++ Obstacle.notOpen.wording)
    keepDescriptor descriptor
    moveDescriptor descriptor source false

/-- Closes a descriptor. -/
def closeFor (descriptor : Nat) : Run Unit := do
  keepDescriptor descriptor
  Prog.close descriptor

/-- Lets a descriptor lead to a text. -/
def supplyFor (descriptor : Nat) (t : Text) : Run Unit := do
  keepDescriptor descriptor
  (Prog.act fun w =>
    let (pipe, w) := w.addPipe false
    let w := w.updatePipe pipe fun p => { p with front := t, size := t.length }
    ((), w.connectTo descriptor (Kernel.sourceOf pipe)) : Prog Unit)

end Console.Host
