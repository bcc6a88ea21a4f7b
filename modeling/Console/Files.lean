import Console.Text.Octets

/-! A tree of files as a value. Its nodes have numbers, and a directory lists names with the numbers
    of what they name. A path is looked up name by name from a directory; every name but the last
    must be that of a directory, or of a link to one. -/

namespace Console

/-- The devices of a tree. -/
inductive Device where
  /-- Ends at once when it is read, and takes everything. -/
  | null
  /-- Never ends, and is all zeros. -/
  | zero
  /-- Has no room for anything. -/
  | full
  /-- A terminal, of which there is none. -/
  | terminal
  deriving DecidableEq, Repr

/-- What a node is. -/
inductive Content where
  | file (bytes : ByteArray)
  /-- A program of the system, by its name. -/
  | program (name : Text)
  /-- A directory with the one above it and its entries in the order in which they came. -/
  | directory (parent : Nat) (entries : List (Text × Nat))
  /-- A name for the path that it holds. -/
  | link (target : Text)
  | pipe
  | device (kind : Device)

/-- A node of the tree. -/
structure Node where
  content : Content
  /-- The bits that say who may read, write and run it. -/
  mode : Nat
  /-- When it was last changed, in nanoseconds. -/
  modified : Int

/-- Whether a node is a directory. -/
def Node.isDirectory (node : Node) : Bool :=
  match node.content with
  | .directory _ _ => true
  | _ => false

/-- All nodes, by their numbers, and the time. -/
structure Files where
  nodes : Array Node
  now : Int

namespace Files

/-- Why an operation on files fails. -/
inductive Fault where
  | notPermitted
  | notFound
  | noDevice
  | accessDenied
  | busy
  | alreadyExists
  | notDirectory
  | isDirectory
  | invalid
  | noSpace
  | nameTooLong
  | notEmpty
  | tooManyLinks
  | nulInName
  | notText
  deriving DecidableEq, Repr

/-- The words for a fault, and its number if the system has one. -/
def Fault.words : Fault → String × Option Nat
  | .notPermitted => ("Operation not permitted", some 1)
  | .notFound => ("No such file or directory", some 2)
  | .noDevice => ("No such device or address", some 6)
  | .accessDenied => ("Permission denied", some 13)
  | .busy => ("Device or resource busy", some 16)
  | .alreadyExists => ("File exists", some 17)
  | .notDirectory => ("Not a directory", some 20)
  | .isDirectory => ("Is a directory", some 21)
  | .invalid => ("Invalid argument", some 22)
  | .noSpace => ("No space left on device", some 28)
  | .nameTooLong => ("File name too long", some 36)
  | .notEmpty => ("Directory not empty", some 39)
  | .tooManyLinks => ("Too many levels of symbolic links", some 40)
  | .nulInName => ("file name contained an unexpected NUL byte", none)
  | .notText => ("stream did not contain valid UTF-8", none)

/-- The wording of a fault without its number. -/
def Fault.wording (f : Fault) : Text := f.words.1.toList

/-- The wording of a fault. -/
def Fault.message (f : Fault) : Text :=
  match f.words.2 with
  | none => f.wording
  | some n => f.wording ++ " (os error ".toList ++ Text.ofNat n ++ ")".toList

/-! ### Nodes -/

/-- The number of the root. -/
def root : Nat := 0

/-- The bits of a directory and of a file that are made without others being asked for. -/
def usualDirectoryMode : Nat := 0o755

/-- The bits of a file that is made without others being asked for. -/
def usualFileMode : Nat := 0o644

/-- A tree with a root and nothing else. -/
def empty : Files := ⟨#[⟨.directory root [], usualDirectoryMode, 0⟩], 0⟩

/-- The node of a number. -/
def node? (fs : Files) (n : Nat) : Option Node := fs.nodes[n]?

/-- The directory above a directory, and its entries. -/
def directory? (fs : Files) (n : Nat) : Option (Nat × List (Text × Nat)) :=
  match fs.node? n with
  | some ⟨.directory parent entries, _, _⟩ => some (parent, entries)
  | _ => none

/-- The path that a link holds. -/
def link? (fs : Files) (n : Nat) : Option Text :=
  match fs.node? n with
  | some ⟨.link target, _, _⟩ => some target
  | _ => none

/-- Whether a number is that of a directory. -/
def isDirectory (fs : Files) (n : Nat) : Bool := (fs.directory? n).isSome

/-- Whether a number is that of a regular file. -/
def isFile (fs : Files) (n : Nat) : Bool :=
  match fs.node? n with
  | some ⟨.file _, _, _⟩ | some ⟨.program _, _, _⟩ => true
  | _ => false

/-- Changes one node. -/
def update (fs : Files) (n : Nat) (f : Node → Node) : Files :=
  { fs with nodes := fs.nodes.modify n f }

/-- Gives a node other content. -/
def setContent (fs : Files) (n : Nat) (content : Content) : Files :=
  fs.update n fun node => { node with content := content, modified := fs.now }

/-- Changes the entries of a directory. -/
def updateEntries (fs : Files) (n : Nat) (f : List (Text × Nat) → List (Text × Nat)) : Files :=
  match fs.directory? n with
  | some (parent, entries) => fs.setContent n (.directory parent (f entries))
  | none => fs

/-- Adds a node under a name to a directory, and answers its number. -/
def add (fs : Files) (directory : Nat) (name : Text) (content : Content) (mode : Nat) :
    Nat × Files :=
  let n := fs.nodes.size
  (n, ({ fs with nodes := fs.nodes.push ⟨content, mode, fs.now⟩ } : Files).updateEntries directory
    (· ++ [(name, n)]))

/-! ### Looking up -/

/-- Where a path leads: to a node, or to a name that is free in a directory. Behind a free name
    there may be a slash, and then only a directory can be made of it. -/
inductive Spot where
  | there (n : Nat)
  | free (directory : Nat) (name : Text) (slash : Bool)
  deriving DecidableEq, Repr

/-- Where a walk along names stops: at its end, or at a link. -/
inductive Stop where
  | arrived (spot : Spot)
  | through (directory : Nat) (target : Text) (rest : List Text)
  deriving DecidableEq, Repr

/-- The longest name, in bytes. -/
def longestName : Nat := 255

/-- The length that no path reaches, in bytes. -/
def pathLimit : Nat := 4096

/-- How many links are followed. -/
def mostLinks : Nat := 40

/-- Goes along names from a node up to the first link that is to be followed. A link behind which
    nothing stands is followed only if `follows` says so. -/
def walk (fs : Files) (follows : Bool) : Nat → List Text → Except Fault Stop
  | at_, [] => .ok (.arrived (.there at_))
  | at_, name :: rest =>
    match fs.directory? at_ with
    | none => .error .notDirectory
    | some (parent, entries) =>
      if name = [] ∨ name = ['.'] then fs.walk follows at_ rest
      else if name = ['.', '.'] then fs.walk follows parent rest
      else if name.length > longestName then .error .nameTooLong
      else
        match entries.lookup name with
        | none =>
          if rest.all List.isEmpty then .ok (.arrived (.free at_ name !rest.isEmpty))
          else .error .notFound
        | some n =>
          match fs.link? n with
          | none => fs.walk follows n rest
          | some target =>
            if follows || !rest.isEmpty then .ok (.through at_ target rest)
            else .ok (.arrived (.there n))

/-- The directory from which a path is seen, and its names. -/
def start (base : Nat) (t : Text) : Nat × List Text :=
  (if t.head? = some '/' then root else base, Text.splitOn '/' t)

/-- Goes along names and through at most so many links. -/
def walkThrough (fs : Files) (follows : Bool) : Nat → Nat → List Text → Except Fault Spot
  | links, at_, names =>
    match fs.walk follows at_ names with
    | .error e => .error e
    | .ok (.arrived spot) => .ok spot
    | .ok (.through directory target rest) =>
      match links with
      | 0 => .error .tooManyLinks
      | links + 1 =>
        if target = [] then .error .notFound
        else
          let (at_, names) := start directory target
          fs.walkThrough follows links at_ (names ++ rest)

/-- Where a path leads, seen from a directory. -/
def resolve (fs : Files) (base : Nat) (t : Text) (follows : Bool) : Except Fault Spot :=
  if '\x00' ∈ t then .error .nulInName
  else if t = [] then .error .notFound
  else if t.length ≥ pathLimit then .error .nameTooLong
  else
    let (at_, names) := start base t
    fs.walkThrough follows mostLinks at_ names

/-- The number of what a path names. -/
def locate (fs : Files) (base : Nat) (t : Text) (follows : Bool) : Except Fault Nat :=
  match fs.resolve base t follows with
  | .error e => .error e
  | .ok (.free _ _ _) => .error .notFound
  | .ok (.there n) => .ok n

/-- The number of what a path names, if there is something. -/
def find? (fs : Files) (base : Nat) (t : Text) : Option Nat := (fs.locate base t true).toOption

/-- A path without its last name, and that name without the slashes behind it. -/
def splitLast (t : Text) : Text × Text :=
  let short := t.reverse.dropWhile (· == '/')
  ((short.dropWhile (· != '/')).reverse, (short.takeWhile (· != '/')).reverse)

/-- The directory and the last name of a path, which may or may not be there. -/
def placeOf (fs : Files) (base : Nat) (t : Text) : Except Fault (Nat × Text) :=
  if '\x00' ∈ t then .error .nulInName
  else if t = [] then .error .notFound
  else if t.length ≥ pathLimit then .error .nameTooLong
  else
    let (front, name) := splitLast t
    let above : Except Fault Nat :=
      if front = [] then .ok base else fs.locate base front true
    match above with
    | .error e => .error e
    | .ok d =>
      if !fs.isDirectory d then .error .notDirectory
      else if name.length > longestName then .error .nameTooLong
      else .ok (d, name)

/-! ### Reading and writing -/

/-- The bytes that can be read from a node. -/
def bytesOf (fs : Files) (n : Nat) : Except Fault ByteArray :=
  match (fs.node? n).map Node.content with
  | none => .error .notFound
  | some (.directory _ _) => .error .isDirectory
  | some (.file bytes) => .ok bytes
  | some _ => .ok ByteArray.empty

/-- The bytes of a file. -/
def read (fs : Files) (base : Nat) (t : Text) : Except Fault ByteArray :=
  (fs.locate base t true).bind fs.bytesOf

/-- The text of a file. -/
def readText (fs : Files) (base : Nat) (t : Text) : Except Fault Text :=
  (fs.read base t).bind fun bytes =>
    match Text.ofUtf8? bytes with
    | none => .error .notText
    | some text => .ok text

/-- The number of a file that is to be written, which is made if its directory exists. A path that
    ends with a slash can only be that of a directory. -/
def openToWrite (fs : Files) (base : Nat) (t : Text) (mode : Nat) : Except Fault (Nat × Files) :=
  if t.getLast? = some '/' then
    (fs.placeOf base t).bind fun _ => .error .isDirectory
  else
    match fs.resolve base t true with
    | .error e => .error e
    | .ok (.free _ _ true) => .error .isDirectory
    | .ok (.free d name false) => .ok (fs.add d name (.file ByteArray.empty) mode)
    | .ok (.there n) => if fs.isDirectory n then .error .isDirectory else .ok (n, fs)

/-- Puts bytes in place of those of a file; a device keeps nothing. -/
def fill (fs : Files) (n : Nat) (bytes : ByteArray) : Files :=
  if fs.isFile n then fs.setContent n (.file bytes) else fs

/-- Writes a whole file, which is made if its directory exists. -/
def write (fs : Files) (base : Nat) (t : Text) (bytes : ByteArray) : Except Fault Files :=
  (fs.openToWrite base t usualFileMode).map fun (n, fs) => fs.fill n bytes

/-! ### Directories -/

/-- Makes a directory in one that exists. -/
def makeDirectory (fs : Files) (base : Nat) (t : Text) (mode : Nat) : Except Fault Files :=
  (fs.placeOf base t).bind fun (d, name) =>
    if name = [] ∨ name = ['.'] ∨ name = ['.', '.'] then .error .alreadyExists
    else
      match fs.directory? d with
      | none => .error .notDirectory
      | some (_, entries) =>
        if (entries.lookup name).isSome then .error .alreadyExists
        else .ok (fs.add d name (.directory d []) mode).2

/-- The text without its last name; a text without names has no parent. -/
def parent? (t : Text) : Option Text :=
  let rooted := t.head? = some '/'
  let names := (Text.splitOn '/' t).filter fun name => name != [] && name != ['.']
  match names.reverse with
  | [] => if rooted ∨ t = [] then none else some []
  | _ :: above => some ((if rooted then ['/'] else []) ++ Text.join ['/'] above.reverse)

/-- Makes a directory unless it is there, and before it those above it that are missing, so many
    at most. What was made before a fault stays. -/
def makeWithParents (fs : Files) (base : Nat) : Nat → Text → Except Fault Unit × Files
  | fuel, t =>
    let unlessThere (fs : Files) (e : Fault) : Except Fault Unit × Files :=
      if (fs.find? base t).any fs.isDirectory then (.ok (), fs) else (.error e, fs)
    if t = [] then (.ok (), fs)
    else
      match fs.makeDirectory base t usualDirectoryMode with
      | .ok fs => (.ok (), fs)
      | .error .notFound =>
        match fuel, parent? t with
        | fuel + 1, some above =>
          match fs.makeWithParents base fuel above with
          | (.error e, fs) => (.error e, fs)
          | (.ok (), fs) =>
            match fs.makeDirectory base t usualDirectoryMode with
            | .ok fs => (.ok (), fs)
            | .error e => unlessThere fs e
        | _, _ => (.error .notFound, fs)
      | .error e => unlessThere fs e

/-- Makes a directory and those above it that are missing. -/
def makeDirectories (fs : Files) (base : Nat) (t : Text) : Except Fault Unit × Files :=
  fs.makeWithParents base t.length t

/-- Writes a file and makes the directories above it. -/
def plant (fs : Files) (base : Nat) (t : Text) (bytes : ByteArray) : Files :=
  let fs := match parent? t with
    | some parent => (fs.makeDirectories base parent).2
    | none => fs
  (fs.write base t bytes).toOption.getD fs

/-! ### Names of paths -/

/-- The names on the way from the root to a directory, the last one first. -/
def namesUp (fs : Files) : Nat → Nat → List Text
  | 0, _ => []
  | fuel + 1, n =>
    if n = root then []
    else
      match fs.directory? n with
      | none => []
      | some (parent, _) =>
        let entries := ((fs.directory? parent).map Prod.snd).getD []
        ((entries.find? fun (_, m) => m == n).map Prod.fst).getD [] :: fs.namesUp fuel parent

/-- The paths of all nodes below a directory so many levels deep, behind a text, each directory in
    front of what it holds. -/
def pathsBelow (fs : Files) : Nat → Nat → Text → List (Text × Nat)
  | 0, _, _ => []
  | fuel + 1, n, lead =>
    match fs.directory? n with
    | none => []
    | some (_, entries) => entries.flatMap fun (name, m) =>
      let path := lead ++ '/' :: name
      (path, m) :: fs.pathsBelow fuel m path

/-- The paths of all nodes but the root. -/
def paths (fs : Files) : List (Text × Nat) := fs.pathsBelow fs.nodes.size root []

/-- The path of a directory, from the root. -/
def pathOf (fs : Files) (n : Nat) : Text :=
  match (fs.namesUp fs.nodes.size n).reverse with
  | [] => ['/']
  | names => names.flatMap fun name => '/' :: name

/-- A text with a name added behind a slash; a rooted name replaces all. -/
def joinPath (t name : Text) : Text :=
  if name.head? = some '/' then name
  else if t = [] ∨ t.getLast? = some '/' then t ++ name
  else t ++ '/' :: name

end Files

end Console
