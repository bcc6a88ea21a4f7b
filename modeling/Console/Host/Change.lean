import Console.Files

/-! Changes to a tree of files: names are given, taken away and moved, and what nodes say of
    themselves. A node that no name leads to any more stays for those who have opened it. -/

namespace Console.Files

/-- Whether a name stands for a directory as such and not for an entry. -/
def isDots (name : Text) : Bool := name == ['.'] || name == ['.', '.']

/-- The node under a name of a directory. -/
def entry? (fs : Files) (directory : Nat) (name : Text) : Option Nat :=
  (fs.directory? directory).bind fun (_, entries) => entries.lookup name

/-- Takes a name away from a directory. -/
def dropEntry (fs : Files) (directory : Nat) (name : Text) : Files :=
  fs.updateEntries directory fun l => l.filter fun (other, _) => other != name

/-- Gives a node a name in a directory. -/
def addEntry (fs : Files) (directory : Nat) (name : Text) (n : Nat) : Files :=
  fs.updateEntries directory (· ++ [(name, n)])

/-- Whether a directory has no entries. -/
def isEmptyDirectory (fs : Files) (n : Nat) : Bool :=
  (fs.directory? n).any fun (_, entries) => entries.isEmpty

/-- How many names lead to a node. A directory has one of its own in itself and in those below. -/
def linkCount (fs : Files) (n : Nat) : Nat :=
  match fs.directory? n with
  | some (_, entries) => 2 + (entries.filter fun (_, m) => fs.isDirectory m).length
  | none => fs.nodes.foldl (fun count node =>
      match node.content with
      | .directory _ entries => count + (entries.filter fun (_, m) => m == n).length
      | _ => count) 0

/-- Whether a directory is another one or stands above it. -/
def isAbove (fs : Files) (above : Nat) : Nat → Nat → Bool
  | 0, _ => false
  | fuel + 1, n =>
    n == above || (n != root && match fs.directory? n with
      | some (parent, _) => fs.isAbove above fuel parent
      | none => false)

/-! ### Taking away -/

/-- Takes away the name of something that is no directory. -/
def unlink (fs : Files) (base : Nat) (t : Text) : Except Fault Files := do
  let (d, name) ← fs.placeOf base t
  if name = [] ∨ isDots name then throw .isDirectory
  match fs.entry? d name with
  | none => throw .notFound
  | some n =>
    if fs.isDirectory n then throw .isDirectory
    else if t.getLast? = some '/' then throw .notDirectory
    else pure (fs.dropEntry d name)

/-- Takes away a directory without entries. -/
def removeDirectory (fs : Files) (base : Nat) (t : Text) : Except Fault Files := do
  let (d, name) ← fs.placeOf base t
  if name = ['.'] then throw .invalid
  if name = ['.', '.'] then throw .notEmpty
  if name = [] then throw .busy
  match fs.entry? d name with
  | none => throw .notFound
  | some n =>
    if !fs.isDirectory n then throw .notDirectory
    else if !fs.isEmptyDirectory n then throw .notEmpty
    else pure (fs.dropEntry d name)

/-! ### Giving names -/

/-- Puts something under a name that is free. -/
def addAt (fs : Files) (base : Nat) (t : Text) (content : Content) (mode : Nat) :
    Except Fault Files := do
  let (d, name) ← fs.placeOf base t
  if name = [] ∨ isDots name ∨ (fs.entry? d name).isSome then throw .alreadyExists
  if t.getLast? = some '/' then throw .notFound
  pure (fs.add d name content mode).2

/-- Gives what a path names another name that is free. -/
def link (fs : Files) (base : Nat) (source target : Text) : Except Fault Files := do
  let n ← fs.locate base source false
  let (d, name) ← fs.placeOf base target
  if name = [] ∨ isDots name ∨ (fs.entry? d name).isSome then throw .alreadyExists
  if fs.isDirectory n then throw .notPermitted
  pure (fs.addEntry d name n)

/-- Lets a directory know the one above it. -/
def setParent (fs : Files) (n parent : Nat) : Files :=
  match fs.directory? n with
  | some (_, entries) => fs.update n fun node => { node with content := .directory parent entries }
  | none => fs

/-- Moves a name; what has the new name gives way if it is of the same kind. -/
def rename (fs : Files) (base : Nat) (source target : Text) : Except Fault Files := do
  let (d, name) ← fs.placeOf base source
  let (e, other) ← fs.placeOf base target
  if name = [] ∨ isDots name ∨ other = [] ∨ isDots other then throw .busy
  match fs.entry? d name with
  | none => throw .notFound
  | some n =>
    if !fs.isDirectory n && (source.getLast? = some '/' || target.getLast? = some '/') then
      throw .notDirectory
    if fs.isDirectory n && fs.isAbove n fs.nodes.size e then throw .invalid
    let moved : Files := ((fs.dropEntry d name).dropEntry e other).addEntry e other n
    match fs.entry? e other with
    | none => pure (moved.setParent n e)
    | some m =>
      if m = n then pure fs
      else if fs.isDirectory m then
        if !fs.isDirectory n then throw .isDirectory
        else if !fs.isEmptyDirectory m then throw .notEmpty
        else pure (moved.setParent n e)
      else if fs.isDirectory n then throw .notDirectory
      else pure moved

/-! ### Properties -/

/-- Sets the bits of a node. -/
def setMode (fs : Files) (n mode : Nat) : Files :=
  fs.update n fun node => { node with mode := mode }

/-- Sets the time at which a node was last changed. -/
def setModified (fs : Files) (n : Nat) (time : Int) : Files :=
  fs.update n fun node => { node with modified := time }

/-- How much a node holds. -/
def sizeOf (fs : Files) (n : Nat) : Nat :=
  match (fs.node? n).map Node.content with
  | some (.file bytes) => bytes.size
  | some (.directory _ _) => 4096
  | some (.link target) => target.length
  | some (.program name) => 1000 * name.length
  | _ => 0

/-- The path of a node without links, if every directory on the way is there. The last name can be
    free. -/
def canonical? (fs : Files) (base : Nat) (t : Text) : Option Text := do
  match ← (fs.resolve base t true).toOption with
  | .free d name _ => some (joinPath (fs.pathOf d) name)
  | .there n =>
    if fs.isDirectory n then some (fs.pathOf n)
    else
      let owner := fs.nodes.findIdx? fun node =>
        match node.content with
        | .directory _ entries => entries.any fun (_, m) => m == n
        | _ => false
      owner.bind fun d => (fs.directory? d).bind fun (_, entries) =>
        (entries.find? fun (_, m) => m == n).map fun (name, _) => joinPath (fs.pathOf d) name

end Console.Files
