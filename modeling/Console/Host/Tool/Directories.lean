import Console.Host.Tool.Mode
import Console.Host.Tool.Work

/-! Tools that make and take away directories and other entries, and change their modes. -/

namespace Console.Host.Tool

open Work

/-- Looks at the files from the directory of the process. -/
def look {α : Type} (f : Files → Nat → α) : Work α := step (Prog.look f)

/-- Changes the files, unless that fails. -/
def change (f : Files → Nat → Except Files.Fault Files) : Work (Except Files.Fault Unit) :=
  step (Prog.change f)

/-- What a path names itself, without following a link at its end. -/
def nodeAt (file : Text) : Work (Except Files.Fault (Nat × Node)) :=
  look fun fs base => do
    let n ← fs.locate base file false
    match fs.node? n with
    | some node => pure (n, node)
    | none => throw .notFound

/-- What a path leads to. -/
def nodeBehind (file : Text) : Work (Except Files.Fault (Nat × Node)) :=
  look fun fs base => do
    let n ← fs.locate base file true
    match fs.node? n with
    | some node => pure (n, node)
    | none => throw .notFound

/-- Whether a path leads to a directory. -/
def isDirectoryAt (file : Text) : Work Bool :=
  look fun fs base => (fs.find? base file).any fs.isDirectory

/-- The names in a directory. -/
def namesIn (fs : Files) (base : Nat) (path : Text) : Except Files.Fault (List Text) := do
  let n ← fs.locate base path true
  pure (((fs.directory? n).map fun (_, entries) => entries.map Prod.fst).getD [])

/-- The paths of the directories above a path and the path itself. -/
def pathPrefixes (t : Text) : List Text :=
  let ends := (List.range t.length).filter fun n =>
    t[n]? == some '/' && n > 0 && t[n - 1]? != some '/' && (t.drop n).any (· != '/')
  (ends.map t.take) ++ [t]

/-- The mode that an option asks for, from the one that is usual. -/
def modeOption (g : Given) (usual : Nat) (isDirectory : Bool) : Work (Option Nat) := do
  match g.last? "mode" with
  | none => pure none
  | some t =>
    match Mode.change? t with
    | none => giveUp ("invalid mode ".toList ++ quoted t)
    | some f => do
      let mask ← step (Prog.see fun w => w.self.mask)
      pure (some (f isDirectory mask usual))

/-- Sets the mode of what a path names. -/
def setModeAt (file : Text) (mode : Nat) : Work Unit := do
  let _ ← change fun fs base => do
    let n ← fs.locate base file true
    pure (fs.setMode n mode)

/-- Makes a directory that is missing, or says why not. -/
def makeDirectory (file : Text) : Work (Except Files.Fault Unit) := do
  let mode ← step (Prog.see fun w => w.masked 0o777)
  change fun fs base => fs.makeDirectory base file mode

/-- Makes directories. -/
def mkdir : Program :=
  toolOf usualManner
    [valued 'm' "mode", flag 'p' "parents", flag 'v' "verbose", flag 'Z' "",
      named "context" .maybe]
    fun g => do
      if g.operands.isEmpty then misuse "missing operand".toList
      let mode ← modeOption g 0o777 true
      let said (file : Text) : Work Unit :=
        if g.has "verbose" then
          sayLine ("mkdir: created directory ".toList ++ quotedName file)
        else pure ()
      let failed (file : Text) (e : Files.Fault) : Work Unit :=
        complain 1 ("cannot create directory ".toList ++ quotedName file ++ ": ".toList ++
          e.wording)
      let finished (file : Text) : Work Unit := do
        match mode with
        | some m => setModeAt file m
        | none => pure ()
      g.operands.forM fun file => do
        if g.has "parents" then
          let rec go : List Text → Work Unit
            | [] => pure ()
            | path :: rest => do
              match ← makeDirectory path with
              | .ok () =>
                said path
                if rest.isEmpty then finished path
                go rest
              | .error e =>
                if ← isDirectoryAt path then go rest
                else failed path (if e = .alreadyExists && !rest.isEmpty then .notDirectory else e)
          go (pathPrefixes file)
        else
          match ← makeDirectory file with
          | .ok () =>
            finished file
            said file
          | .error e => failed file e

/-- Takes away directories that are empty. -/
def rmdir : Program :=
  toolOf usualManner
    [named "ignore-fail-on-non-empty" .nothing, flag 'p' "parents", flag 'v' "verbose"] fun g => do
    if g.operands.isEmpty then misuse "missing operand".toList
    let rec go (isFirst : Bool) : List Text → Work Unit
      | [] => pure ()
      | path :: rest => do
        if g.has "verbose" then sayLine ("rmdir: removing directory, ".toList ++ quotedName path)
        match ← change fun fs base => fs.removeDirectory base path with
        | .ok () => go false rest
        | .error e =>
          if !(e = .notEmpty && g.has "ignore-fail-on-non-empty") then
            let what := if isFirst then "failed to remove " else "failed to remove directory "
            complain 1 (what.toList ++ quotedName path ++ ": ".toList ++ e.wording)
    g.operands.forM fun file =>
      if g.has "parents" then
        let short := (file.reverse.dropWhile (· == '/')).reverse
        go true (pathPrefixes (if short.isEmpty then file else short)).reverse
      else go true [file]

/-- Makes pipes with names. -/
def mkfifo : Program :=
  toolOf usualManner [valued 'm' "mode", flag 'Z' "", named "context" .maybe] fun g => do
    if g.operands.isEmpty then misuse "missing operand".toList
    let asked ← modeOption g 0o666 false
    g.operands.forM fun file => do
      let usual ← step (Prog.see fun w => w.masked 0o666)
      match ← change fun fs base => fs.addAt base file .pipe (asked.getD usual) with
      | .ok () => pure ()
      | .error e =>
        complain 1 ("cannot create fifo ".toList ++ quotedName file ++ ": ".toList ++ e.wording)

/-! ### Taking away -/

/-- When it is asked whether something is to be taken away. -/
structure Removal where
  forced : Bool
  asks : Bool
  deep : Bool
  directories : Bool
  verbose : Bool

/-- Reads an answer from the input. -/
def readAnswer : Nat → Text → Work Bool
  | 0, _ => pure false
  | fuel + 1, read => do
    match ← step (Prog.await fun w => w.read? 0 1) with
    | .ok [c] =>
      if c = '\n' then pure ((read.reverse.head?).any fun c => c == 'y' || c == 'Y')
      else readAnswer fuel (c :: read)
    | _ => pure ((read.reverse.head?).any fun c => c == 'y' || c == 'Y')

/-- Asks a question. -/
def confirmed (question : Text) : Work Bool := do
  flush
  step (Prog.put 2 ((← name) ++ ": ".toList ++ question ++ "? ".toList))
  readAnswer 100000 []

/-- The word for the kind of a node. -/
def kindWord (content : Content) : String :=
  match content with
  | .file bytes => if bytes.size = 0 then "regular empty file" else "regular file"
  | .program _ => "regular file"
  | .directory _ _ => "directory"
  | .link _ => "symbolic link"
  | .pipe => "fifo"
  | .device _ => "character special file"

/-- Takes away what a path names, and what is below it, so many levels deep. Answers whether it is
    gone. -/
def remove (r : Removal) : Nat → Text → Work Bool
  | 0, _ => pure false
  | fuel + 1, file => do
    let failed (e : Files.Fault) : Work Bool := do
      complain 1 ("cannot remove ".toList ++ quotedName file ++ ": ".toList ++ e.wording)
      pure false
    match ← nodeAt file with
    | .error e =>
      if r.forced && (e = .notFound || e = .notDirectory) then pure true else failed e
    | .ok (_, node) =>
      match node.content with
      | .directory _ entries =>
        if !r.deep && !(r.directories && entries.isEmpty) then
          failed (if r.directories then .notEmpty else .isDirectory)
        else
          let goesOn ←
            if r.asks && !entries.isEmpty then
              confirmed ("descend into directory ".toList ++ quotedName file)
            else pure true
          if !goesOn then pure false
          else
            let lead := if file.getLast? = some '/' then file else file ++ ['/']
            let gone ← entries.mapM fun (name, _) => remove r fuel (lead ++ name)
            if !gone.all id then pure false
            else
              let isWanted ←
                if r.asks then confirmed ("remove directory ".toList ++ quotedName file)
                else pure true
              if !isWanted then pure false
              else
                match ← change fun fs base => fs.removeDirectory base file with
                | .error e => failed e
                | .ok () =>
                  if r.verbose then sayLine ("removed directory ".toList ++ quotedName file)
                  pure true
      | content =>
        let isWanted ←
          if r.asks then
            confirmed ("remove ".toList ++ (kindWord content).toList ++ [' '] ++ quotedName file)
          else pure true
        if !isWanted then pure false
        else
          match ← change fun fs base => fs.unlink base file with
          | .error e => failed e
          | .ok () =>
            if r.verbose then sayLine ("removed ".toList ++ quotedName file)
            pure true

/-- Whether a path ends with the name of a directory itself or of the one above it. -/
def endsInDots (file : Text) : Bool :=
  let last := (Files.splitLast file).2
  last == ['.'] || last == ['.', '.']

/-- Takes away files, and directories if that is asked for. -/
def rm : Program :=
  tool usualManner fun arguments => do
    let switches := [flag 'f' "force", flag 'i' "", flag 'I' "", named "interactive" .maybe,
      flag 'r' "recursive", flag 'R' "", flag 'd' "dir", flag 'v' "verbose",
      named "preserve-root" .maybe, named "no-preserve-root" .nothing,
      named "one-file-system" .nothing]
    match (Grammar.usual switches).read arguments with
    | .error e => do
      mutter e
      match ← arguments.findM? fun t => do
          pure (t.head? == some '-' && t.length > 1 && (← look fun fs base =>
            (fs.locate base t false).toOption.isSome)) with
      | some t =>
        step (Prog.put 2 ("Try 'rm ./".toList ++ t ++ "' to remove the file ".toList ++
          quotedName t ++ ".\n".toList))
      | none => pure ()
      step (Prog.put 2 (helpHint (← name)))
      stop 1
    | .ok g =>
      let asks := match (g.options.filter fun (k, _) =>
          ["force", "i", "I", "interactive"].contains k).getLast? with
        | some ("i", _) => true
        | some ("interactive", v) => v.isEmpty || v == "always".toList
        | _ => false
      let r : Removal :=
        ⟨g.lastOf? ["force", "i", "interactive"] == some "force", asks,
          g.has "recursive" || g.has "R", g.has "dir", g.has "verbose"⟩
      if g.operands.isEmpty && !r.forced then misuse "missing operand".toList
      g.operands.forM fun file => do
        if r.deep && endsInDots file then
          complain 1 ("refusing to remove '.' or '..' directory: skipping ".toList ++
            quotedName file)
        else if r.deep && !g.has "no-preserve-root" && !file.isEmpty && file.all (· == '/') then
          complain 1 "it is dangerous to operate recursively on '/'".toList
          mutter "use --no-preserve-root to override this failsafe".toList
        else
          let depth ← look fun fs _ => fs.nodes.size
          let _ ← remove r (depth + 1) file

/-- Takes away the name of a file. -/
def unlink : Program :=
  toolOf usualManner [] fun g => do
    match g.operands with
    | [] => misuse "missing operand".toList
    | _ :: extra :: _ => misuse ("extra operand ".toList ++ quoted extra)
    | [file] =>
      match ← change fun fs base => fs.unlink base file with
      | .ok () => pure ()
      | .error e => giveUp ("cannot unlink ".toList ++ quotedName file ++ ": ".toList ++ e.wording)

/-! ### Modes and sizes -/

/-- The paths of a node and of all below it, each directory in front of what it holds. -/
def pathsOf (file : Text) : Work (List Text) :=
  look fun fs base =>
    match fs.locate base file true with
    | .error _ => [file]
    | .ok n =>
      let lead := (file.reverse.dropWhile (· == '/')).reverse
      file :: (fs.pathsBelow fs.nodes.size n lead).map Prod.fst

/-- How a mode is shown when it has changed. -/
def shownMode (mode : Nat) : Text :=
  Mode.digits 4 mode ++ " (".toList ++ Mode.letters mode ++ ")".toList

/-- Changes modes. -/
def chmod : Program :=
  tool usualManner fun arguments => do
    let switches := [flag 'c' "changes", flag 'f' "silent", named "quiet" .nothing,
      flag 'v' "verbose", flag 'R' "recursive", named "reference" .value,
      named "preserve-root" .nothing, named "no-preserve-root" .nothing]
    let isMode (t : Text) : Bool :=
      match t with
      | '-' :: c :: _ => "rwxXstugoa,+=01234567".toList.elem c
      | _ => false
    match Grammar.read ⟨switches, false, isMode⟩ arguments with
    | .error e => misuse e
    | .ok g =>
      let isQuiet := g.has "silent" || g.has "quiet"
      let (modeText, files) ← match g.last? "reference", g.operands with
        | none, [] => misuse "missing operand".toList
        | none, [t] => misuse ("missing operand after ".toList ++ quoted t)
        | none, t :: files => pure (some t, files)
        | some _, files => pure (none, files)
      let f ← match modeText with
        | some t =>
          match Mode.change? t with
          | some f => pure f
          | none => misuse ("invalid mode: ".toList ++ quoted t)
        | none =>
          let file := (g.last? "reference").getD []
          match ← nodeBehind file with
          | .ok (_, node) => pure fun _ _ _ => node.mode
          | .error e =>
            giveUp ("failed to get attributes of ".toList ++ quotedName file ++ ": ".toList ++
              e.wording)
      let mask ← step (Prog.see fun w => w.self.mask)
      let isSurprising := modeText.any fun t => t.head? == some '-'
      files.forM fun file => do
        let paths ← if g.has "recursive" then pathsOf file else pure [file]
        paths.forM fun path => do
          match ← nodeBehind path with
          | .error e =>
            if paths.length > 1 && path != file then pure ()
            else if isQuiet then atLeast 1
            else
              complain 1 ("cannot access ".toList ++ quotedName path ++ ": ".toList ++ e.wording)
          | .ok (n, node) =>
            let isDirectory := match node.content with
              | .directory _ _ => true
              | _ => false
            let mode := f isDirectory mask node.mode
            let _ ← change fun fs _ => pure (fs.setMode n mode)
            if g.has "verbose" || g.has "changes" then
              if mode != node.mode then
                sayLine ("mode of ".toList ++ quotedName path ++ " changed from ".toList ++
                  shownMode node.mode ++ " to ".toList ++ shownMode mode)
              else if g.has "verbose" then
                sayLine ("mode of ".toList ++ quotedName path ++ " retained as ".toList ++
                  shownMode mode)
            let naive := f isDirectory 0 node.mode
            if isSurprising && naive != mode then
              complain 1 (shown path ++ ": new permissions are ".toList ++ Mode.letters mode ++
                ", not ".toList ++ Mode.letters naive)

/-- Changes owners of some kind, of whom there is only one. -/
def ownerTool (kind : String) : Program :=
  toolOf usualManner
    [flag 'c' "changes", flag 'f' "silent", named "quiet" .nothing, flag 'v' "verbose",
      flag 'R' "recursive", flag 'h' "no-dereference", named "dereference" .nothing,
      named "reference" .value, named "from" .value, flag 'H' "", flag 'L' "", flag 'P' ""]
    fun g => do
      match g.operands with
      | [] => misuse "missing operand".toList
      | [t] => misuse ("missing operand after ".toList ++ quoted t)
      | owner :: files =>
        let names := (Text.splitOn ':' owner).filter fun t => !t.isEmpty
        if names.any fun t => t != "root".toList && !t.all Char.isDigit then
          giveUp ("invalid ".toList ++ kind.toList ++ ": ".toList ++ quoted owner)
        files.forM fun file => do
          match ← nodeBehind file with
          | .ok _ => pure ()
          | .error e =>
            complain 1 ("cannot access ".toList ++ quotedName file ++ ": ".toList ++ e.wording)

/-- Changes the users that own files. -/
def chown : Program := ownerTool "user"

/-- Changes the groups that own files. -/
def chgrp : Program := ownerTool "group"

/-- Sets the sizes of files. -/
def truncate : Program :=
  toolOf usualManner
    [flag 'c' "no-create", flag 'o' "io-blocks", valued 'r' "reference", valued 's' "size"]
    fun g => do
      let text ← match g.last? "size" with
        | some t => pure t
        | none => misuse "you must specify either '--size' or '--reference'".toList
      if g.operands.isEmpty then misuse "missing file operand".toList
      let (sign, digits) : Option Char × Text := match text with
        | c :: rest => if "+-<>/%".toList.elem c then (some c, rest) else (none, text)
        | [] => (none, [])
      match if digits.head?.any Char.isDigit then size? digits else none with
      | none => giveUp ("Invalid number: ".toList ++ quoted text)
      | some n =>
        g.operands.forM fun file => do
          let wanted : Wanted := if g.has "no-create" then .overwriting
            else { Wanted.overwriting with makes := true }
          match ← step (Prog.open_ 3 file wanted Prog.openMode) with
          | .error e =>
            if !(g.has "no-create" && e = .notFound) then
              complain 1 ("cannot open ".toList ++ quotedName file ++ " for writing: ".toList ++
                e.wording)
          | .ok d =>
            step (Prog.close d)
            let _ ← change fun fs base => do
              let m ← fs.locate base file true
              let bytes ← fs.bytesOf m
              let old := bytes.size
              let size := match sign with
                | some '+' => old + n
                | some '-' => old - n
                | some '<' => min old n
                | some '>' => max old n
                | some '/' => if n = 0 then old else old / n * n
                | some '%' => if n = 0 then old else (old + n - 1) / n * n
                | _ => n
              let t := Octets.ofBytes (bytes.extract 0 size)
              let zeros := List.replicate (size - t.length) '\x00'
              pure (fs.fill m (Octets.toBytes (t ++ zeros)))

end Console.Host.Tool
