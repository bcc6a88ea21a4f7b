import Console.Host.Tool.Directories

/-! Tools that copy and move files and give them further names. The last operand can be a directory,
    into which all goes. -/

namespace Console.Host.Tool

open Work

/-- How files are copied or moved. -/
structure Transfer where
  deep : Bool
  /-- Whether links are copied as such. -/
  keepsLinks : Bool
  asks : Bool
  /-- Whether what is there stays, or stays if it is not older. -/
  keepsOld : Bool
  onlyNewer : Bool
  forced : Bool
  /-- Whether times are copied as well. -/
  preserves : Bool
  verbose : Bool
  hardLinks : Bool
  softLinks : Bool
  backups : Bool
  deriving Repr

/-- The name of a path in a directory. -/
def inDirectory (directory file : Text) : Text :=
  let name := (Files.splitLast file).2
  if directory.getLast? = some '/' then directory ++ name else directory ++ '/' :: name

/-- A line on something that is copied. -/
def arrow (source target : Text) : Text :=
  quotedName source ++ " -> ".toList ++ quotedName target

/-- Where operands lead: pairs of a source and its target. -/
def transferPairs (g : Given) (what : String) : Work (List (Text × Text)) := do
  let missing {α : Type} (files : List Text) : Work α :=
    match files with
    | [] => misuse ("missing ".toList ++ what.toList ++ " operand".toList)
    | t :: _ =>
      misuse ("missing destination ".toList ++ what.toList ++ " operand after ".toList ++
        quotedName t)
  match g.last? "target-directory" with
  | some directory =>
    if g.operands.isEmpty then missing []
    match ← nodeBehind directory with
    | .error e =>
      giveUp ("target directory ".toList ++ quotedName directory ++ ": ".toList ++ e.wording)
    | .ok (_, ⟨.directory _ _, _, _⟩) =>
      pure (g.operands.map fun t => (t, inDirectory directory t))
    | .ok _ =>
      giveUp ("target directory ".toList ++ quotedName directory ++ ": Not a directory".toList)
  | none =>
    match g.operands.reverse with
    | [] => missing []
    | [t] => missing [t]
    | target :: sources =>
      let sources := sources.reverse
      if g.has "no-target-directory" then
        match sources with
        | [source] => pure [(source, target)]
        | _ => misuse ("extra operand ".toList ++ quotedName ((g.operands[2]?).getD []))
      else
        let isDirectory ← isDirectoryAt target
        match sources, isDirectory with
        | _, true => pure (sources.map fun t => (t, inDirectory target t))
        | [source], false => pure [(source, target)]
        | _, false =>
          match ← nodeBehind target with
          | .error e => giveUp ("target ".toList ++ quotedName target ++ ": ".toList ++ e.wording)
          | .ok _ => giveUp ("target ".toList ++ quotedName target ++ ": Not a directory".toList)

/-! ### Copying -/

/-- Gives what is at a path the name of a backup. -/
def backUp (path : Text) : Work Unit := do
  let _ ← change fun fs base => fs.rename base path (path ++ ['~'])

/-- Copies the bytes of a file to a path, over what is there. -/
def copyFile (t : Transfer) (source target : Text) (n : Nat) (node : Node) (isThere : Bool) :
    Work (Except (Text × Files.Fault) Unit) := do
  let mode ← step (Prog.see fun w => w.masked node.mode)
  let mode := if t.preserves then node.mode else mode
  let time := node.modified
  let r ← change fun fs base => do
    if t.hardLinks then fs.link base source target
    else if t.softLinks then fs.addAt base target (.link source) 0o777
    else
      match node.content with
      | .link text => fs.addAt base target (.link text) 0o777
      | .pipe => fs.addAt base target .pipe mode
      | .device kind => fs.addAt base target (.device kind) mode
      | content =>
        let content : Content := match content with
          | .program name => .program name
          | _ => .file ((fs.bytesOf n).toOption.getD ByteArray.empty)
        if target.getLast? = some '/' then
          let _ ← fs.placeOf base target
          throw .notDirectory
        match fs.resolve base target true with
        | .error e => throw e
        | .ok (.free _ _ true) => throw .isDirectory
        | .ok (.free d name false) => pure (fs.add d name content mode).2
        | .ok (.there m) => pure (fs.setContent m content)
  match r with
  | .error e =>
    let what := if t.hardLinks then "cannot create hard link " else if t.softLinks
      then "cannot create symbolic link " else "cannot create regular file "
    pure (.error (what.toList, e))
  | .ok () =>
    if t.preserves then
      let _ ← change fun fs base => do
        let m ← fs.locate base target true
        pure ((fs.setModified m time).setMode m (if isThere then node.mode else mode))
    pure (.ok ())

/-- Reports that there can be nothing at a path. -/
def noDirectory (path : Text) : Work Unit :=
  complain 1 ("cannot stat ".toList ++ quotedName path ++ ": Not a directory".toList)

/-- Whether what is at a path may be replaced, which can be asked. -/
def mayReplace (asks : Bool) (path : Text) : Work Bool := do
  let yes ← if asks then confirmed ("overwrite ".toList ++ quotedName path) else pure true
  if !yes then atLeast 1
  pure yes

/-- Copies what a path names, and what is below it, so many levels deep. -/
def copy (t : Transfer) : Nat → Text → Text → Work Unit
  | 0, _, _ => pure ()
  | fuel + 1, source, target => do
    let found ← if t.keepsLinks then nodeAt source else nodeBehind source
    match found with
    | .error e =>
      complain 1 ("cannot stat ".toList ++ quotedName source ++ ": ".toList ++ e.wording)
    | .ok (n, node) =>
      let there ← nodeBehind target
      let itself ← nodeAt target
      let isSame := (there.toOption.map Prod.fst) == some n
      let isBlocked := match itself with
        | .error .notDirectory => true
        | _ => false
      if node.isDirectory && !t.deep then
        complain 1 ("-r not specified; omitting directory ".toList ++ quotedName source)
      else if isBlocked then noDirectory target
      else if node.isDirectory then
        let isInside ← look fun fs base =>
          match fs.placeOf base target with
          | .ok (d, _) => fs.isAbove n fs.nodes.size d
          | .error _ => false
        let isThereDirectory := there.toOption.any fun (_, m) => m.isDirectory
        if itself.toOption.isSome && !isThereDirectory then
          complain 1 ("cannot overwrite non-directory ".toList ++ quotedName target ++
            " with directory ".toList ++ quotedName source)
        else if isSame || isInside && !isThereDirectory then
          complain 1 ("cannot copy a directory, ".toList ++ quotedName source ++
            ", into itself, ".toList ++ quotedName target)
        else
          let entries := match node.content with
            | .directory _ l => l
            | _ => []
          let mode ← step (Prog.see fun w => w.masked node.mode)
          let made ← if isThereDirectory then pure (.ok ())
            else change fun fs base => fs.makeDirectory base target mode
          match made with
          | .error e =>
            complain 1 ("cannot create directory ".toList ++ quotedName target ++ ": ".toList ++
              e.wording)
          | .ok () =>
            if t.verbose && !isThereDirectory then sayLine (arrow source target)
            entries.forM fun (name, _) =>
              let under (path : Text) : Text :=
                if path.getLast? = some '/' then path ++ name else path ++ '/' :: name
              copy t fuel (under source) (under target)
            if t.preserves then
              let _ ← change fun fs base => do
                let m ← fs.locate base target true
                pure ((fs.setModified m node.modified).setMode m node.mode)
      else
        let isThere := itself.toOption.isSome
        let isDangling := isThere && there.toOption.isNone
        if isSame && !(t.hardLinks || t.softLinks) &&
            !(t.forced && itself.toOption.any fun (m, _) => m != n) then
          complain 1 (quotedName source ++ " and ".toList ++ quotedName target ++
            " are the same file".toList)
        else if there.toOption.any fun (_, m) => m.isDirectory then
          complain 1 ("cannot overwrite directory ".toList ++ quotedName target ++
            " with non-directory".toList)
        else if isThere && t.keepsOld then pure ()
        else if isThere && t.onlyNewer &&
            there.toOption.any fun (_, m) => m.modified ≥ node.modified then pure ()
        else if isDangling && !t.keepsLinks && !t.forced && !t.softLinks then
          complain 1 ("not writing through dangling symlink ".toList ++ quotedName target)
        else
          let goesOn ← mayReplace (isThere && t.asks) target
          if goesOn then
            if isThere && t.backups then backUp target
            let isLink := match node.content with
              | .link _ | .pipe | .device _ => true
              | _ => false
            let replaces := isThere && !t.backups &&
              (isLink || (t.hardLinks || t.softLinks) && t.forced || isDangling && t.forced)
            if replaces then
              let _ ← change fun fs base => fs.unlink base target
            match ← copyFile t source target n node isThere with
            | .ok () => if t.verbose then sayLine (arrow source target)
            | .error (what, e) =>
              complain 1 (what ++ quotedName target ++
                (if t.hardLinks then " to ".toList ++ quotedName source else []) ++ ": ".toList ++
                e.wording)

/-- The path of a source below a directory, and the directories that it needs. -/
def copyWithParents (t : Transfer) (directory source : Text) (depth : Nat) : Work Unit := do
  let target := directory ++ '/' :: (source.dropWhile (· == '/'))
  (pathPrefixes target).dropLast.forM fun path => do
    let _ ← makeDirectory path
  copy t depth source target

/-- The options of `cp`. -/
def cpSwitches : List Switch :=
  [flag 'a' "archive", flag 'b' "", named "backup" .maybe, flag 'd' "", flag 'f' "force",
    flag 'i' "interactive", flag 'H' "", flag 'l' "link", flag 'L' "dereference",
    flag 'n' "no-clobber", flag 'P' "no-dereference", flag 'p' "", named "preserve" .maybe,
    named "no-preserve" .value, named "parents" .nothing, flag 'R' "recursive", flag 'r' "",
    named "reflink" .maybe, named "remove-destination" .nothing, named "sparse" .value,
    named "strip-trailing-slashes" .nothing, flag 's' "symbolic-link", valued 'S' "suffix",
    valued 't' "target-directory", flag 'T' "no-target-directory", flag 'u' "",
    named "update" .maybe, flag 'v' "verbose", flag 'x' "one-file-system", flag 'Z' "",
    named "attributes-only" .nothing, named "debug" .nothing]

/-- Copies files. -/
def cp : Program :=
  toolOf usualManner cpSwitches fun g => do
    let deep := g.has "recursive" || g.has "r" || g.has "archive"
    let follows := g.lastOf? ["dereference", "no-dereference", "d", "archive", "H"]
    let keepsLinks := match follows with
      | some "dereference" => false
      | some "H" => false
      | some _ => true
      | none => deep
    let overwriting := g.lastOf? ["interactive", "no-clobber", "force"]
    let update := (g.last? "update").getD []
    if g.has "no-clobber" then
      mutter ("warning: behavior of -n is non-portable and may change in future; ".toList ++
        "use --update=none instead".toList)
    let t : Transfer :=
      { deep := deep
        keepsLinks := keepsLinks
        asks := g.has "interactive" && !g.has "no-clobber"
        keepsOld := overwriting == some "no-clobber" || g.has "no-clobber" ||
          update == "none".toList
        onlyNewer := g.has "u" ||
          g.has "update" && (update.isEmpty || update == "older".toList)
        forced := g.has "force" || g.has "remove-destination"
        preserves := g.has "p" || g.has "archive" || g.has "preserve"
        verbose := g.has "verbose"
        hardLinks := g.has "link"
        softLinks := g.has "symbolic-link"
        backups := g.has "b" || g.has "backup" }
    let depth ← look fun fs _ => fs.nodes.size + 2
    if g.has "parents" then
      let (sources, directory) ← match g.last? "target-directory", g.operands.reverse with
        | some d, _ => pure (g.operands, d)
        | none, d :: rest => pure (rest.reverse, d)
        | none, [] => misuse "missing file operand".toList
      sources.forM fun source => copyWithParents t directory source depth
    else
      let pairs ← transferPairs g "file"
      pairs.forM fun (source, target) => copy t depth source target

/-! ### Moving -/

/-- Moves a file. -/
def move (t : Transfer) (source target : Text) : Work Unit := do
  match ← nodeAt source with
  | .error e =>
    complain 1 ("cannot stat ".toList ++ quotedName source ++ ": ".toList ++ e.wording)
  | .ok (n, node) =>
    let there ← nodeAt target
    let isDirectory (m : Node) : Bool := m.isDirectory
    let failed (e : Files.Fault) : Work Unit :=
      complain 1 ("cannot move ".toList ++ quotedName source ++ " to ".toList ++
        quotedName target ++ ": ".toList ++ e.wording)
    let isInside ← look fun fs base =>
      match fs.placeOf base target with
      | .ok (d, _) => node.isDirectory && fs.isAbove n fs.nodes.size d
      | .error _ => false
    let isItself := node.isDirectory && (there.toOption.map Prod.fst) == some n
    let isPlainFile := there.toOption.any fun (_, other) => !other.isDirectory
    if isItself || isInside && !isPlainFile then
      complain 1 ("cannot move ".toList ++ quotedName source ++
        " to a subdirectory of itself, ".toList ++ quotedName target)
    else
      match there with
      | .error .notDirectory => noDirectory target
      | .ok (m, other) =>
        if m = n then
          complain 1 (quotedName source ++ " and ".toList ++ quotedName target ++
            " are the same file".toList)
        else if node.isDirectory && !isDirectory other then
          complain 1 ("cannot overwrite non-directory ".toList ++ quotedName target ++
            " with directory ".toList ++ quotedName source)
        else if !node.isDirectory && isDirectory other then
          complain 1 ("cannot overwrite directory ".toList ++ quotedName target ++
            " with non-directory".toList)
        else if t.keepsOld || t.onlyNewer && other.modified ≥ node.modified then pure ()
        else
          let goesOn ← mayReplace t.asks target
          if goesOn then
            if t.backups then backUp target
            match ← change fun fs base => fs.rename base source target with
            | .ok () => if t.verbose then sayLine ("renamed ".toList ++ arrow source target)
            | .error .notEmpty =>
              complain 1 ("cannot overwrite ".toList ++ quotedName target ++
                ": Directory not empty".toList)
            | .error e => failed e
      | .error _ =>
        match ← change fun fs base => fs.rename base source target with
        | .ok () => if t.verbose then sayLine ("renamed ".toList ++ arrow source target)
        | .error e => failed e

/-- Moves files. -/
def mv : Program :=
  toolOf usualManner
    [flag 'b' "", named "backup" .maybe, flag 'f' "force", flag 'i' "interactive",
      flag 'n' "no-clobber", named "strip-trailing-slashes" .nothing, valued 'S' "suffix",
      valued 't' "target-directory", flag 'T' "no-target-directory", flag 'u' "",
      named "update" .maybe, flag 'v' "verbose", flag 'Z' "", named "no-copy" .nothing,
      named "debug" .nothing]
    fun g => do
      let overwriting := g.lastOf? ["interactive", "no-clobber", "force"]
      let update := (g.last? "update").getD []
      let t : Transfer :=
        { deep := true
          keepsLinks := true
          asks := overwriting == some "interactive"
          keepsOld := overwriting == some "no-clobber" || update == "none".toList
          onlyNewer := g.has "u" ||
            g.has "update" && (update.isEmpty || update == "older".toList)
          forced := overwriting == some "force"
          preserves := true
          verbose := g.has "verbose"
          hardLinks := false
          softLinks := false
          backups := g.has "b" || g.has "backup" }
      let pairs ← transferPairs g "file"
      pairs.forM fun (source, target) => move t source target

/-! ### Further names -/

/-- A path as it is seen from the directory of another one. -/
def relativePath (from_ target : Text) : Text :=
  let names (t : Text) : List Text := (Text.splitOn '/' t).filter fun n => !n.isEmpty
  let a := names from_
  let b := names target
  let common := ((a.zip b).takeWhile fun (x, y) => x == y).length
  let l := List.replicate (a.length - common) ['.', '.'] ++ b.drop common
  if l.isEmpty then ['.'] else Text.join ['/'] l

/-- How further names are given. -/
structure Naming where
  soft : Bool
  forced : Bool
  asks : Bool
  /-- Whether a link to a directory is a target itself. -/
  noFollow : Bool
  relative : Bool
  verbose : Bool
  backups : Bool

/-- Gives what a path names a further name. -/
def giveName (k : Naming) (source target : Text) : Work Unit := do
  let kind := if k.soft then "symbolic link ".toList else "hard link ".toList
  let failed (e : Files.Fault) : Work Unit :=
    complain 1 ("failed to create ".toList ++ kind ++ quotedName target ++
      (if k.soft || e = .alreadyExists then [] else " => ".toList ++ quotedName source) ++
      ": ".toList ++ e.wording)
  let found ← if k.soft then pure (.ok ()) else do pure ((← nodeAt source).map fun _ => ())
  let isDirectory ← if k.soft then pure false else do
    pure ((← nodeAt source).toOption.any fun (_, node) => node.isDirectory)
  match found with
  | .error e =>
    complain 1 ("failed to access ".toList ++ quotedName source ++ ": ".toList ++ e.wording)
  | .ok () =>
    if isDirectory then
      complain 1 (shown source ++ ": hard link not allowed for directory".toList)
    else
      let there ← nodeAt target
      let isSame ← do
        let source ← nodeAt source
        pure (source.toOption.isSome &&
          (source.toOption.map Prod.fst) == (there.toOption.map Prod.fst))
      let goesOn ← match there with
        | .error _ => pure true
        | .ok (_, node) => do
          if (k.forced || k.asks) && isSame && !k.soft then
            complain 1 (quotedName source ++ " and ".toList ++ quotedName target ++
              " are the same file".toList)
            pure false
          else if k.forced && node.isDirectory then
            complain 1 (shown target ++ ": cannot overwrite directory".toList)
            pure false
          else if k.asks then
            let yes ← confirmed ("replace ".toList ++ quotedName target)
            if yes then
              let _ ← change fun fs base => fs.unlink base target
            pure yes
          else
            if k.backups then backUp target
            else if k.forced then
              let _ ← change fun fs base => fs.unlink base target
            pure true
      if goesOn then
        let held ← if !k.relative then pure source else
          look fun fs base =>
            let above := (Files.splitLast target).1
            let here := (fs.canonical? base (if above.isEmpty then ['.'] else above)).getD []
            relativePath here ((fs.canonical? base source).getD source)
        let r ← change fun fs base =>
          if k.soft then
            if source.isEmpty then .error .notFound
            else fs.addAt base target (.link held) 0o777
          else fs.link base source target
        match r with
        | .error e => failed e
        | .ok () =>
          if k.verbose then
            sayLine (quotedName target ++ (if k.soft then " -> ".toList else " => ".toList) ++
              quotedName held)

/-- Gives files further names. -/
def ln : Program :=
  toolOf usualManner
    [flag 'b' "", named "backup" .maybe, flag 'd' "directory", flag 'F' "", flag 'f' "force",
      flag 'i' "interactive", flag 'L' "logical", flag 'n' "no-dereference",
      flag 'P' "physical", flag 'r' "relative", flag 's' "symbolic", valued 'S' "suffix",
      valued 't' "target-directory", flag 'T' "no-target-directory", flag 'v' "verbose"]
    fun g => do
      let k : Naming :=
        { soft := g.has "symbolic"
          forced := g.has "force" && g.lastOf? ["force", "interactive"] == some "force"
          asks := g.lastOf? ["force", "interactive"] == some "interactive"
          noFollow := g.has "no-dereference"
          relative := g.has "relative" && g.has "symbolic"
          verbose := g.has "verbose"
          backups := g.has "b" || g.has "backup" }
      let isTarget (t : Text) : Work Bool := do
        if ← isDirectoryAt t then
          if !k.noFollow then pure true
          else do pure ((← nodeAt t).toOption.any fun (_, node) => node.isDirectory)
        else pure false
      let pairs ← match g.last? "target-directory", g.operands with
        | none, [] => misuse "missing file operand".toList
        | none, [t] =>
          if g.has "no-target-directory" then
            misuse ("missing destination file operand after ".toList ++ quotedName t)
          else pure [(t, inDirectory ['.'] t)]
        | none, [source, target] => do
          if !g.has "no-target-directory" && (← isTarget target) then
            pure [(source, inDirectory target source)]
          else pure [(source, target)]
        | _, _ => transferPairs g "file"
      pairs.forM fun (source, target) => giveName k source target

/-- Gives a file another name. -/
def link : Program :=
  toolOf usualManner [] fun g => do
    match g.operands with
    | [source, target] =>
      match ← change fun fs base => fs.link base source target with
      | .ok () => pure ()
      | .error e =>
        giveUp ("cannot create link ".toList ++ quotedName target ++ " to ".toList ++
          quotedName source ++ ": ".toList ++ e.wording)
    | [] => misuse "missing operand".toList
    | [t] => misuse ("missing operand after ".toList ++ quoted t)
    | _ :: _ :: extra :: _ => misuse ("extra operand ".toList ++ quoted extra)

end Console.Host.Tool
