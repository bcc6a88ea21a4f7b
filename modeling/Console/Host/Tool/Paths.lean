import Console.Host.Format
import Console.Host.Tool.Copy
import Console.Host.Tool.Mode
import Console.Host.Tool.Times

/-! Tools for paths and for what nodes say of themselves. -/

namespace Console.Host.Tool

open Work

/-! ### Parts of paths -/

/-- The last name of a path. -/
def lastName (t : Text) : Text :=
  let name := (Files.splitLast t).2
  if name.isEmpty && !t.isEmpty then ['/'] else name

/-- A name without an ending, unless nothing would be left. -/
def withoutEnding (ending name : Text) : Text :=
  match ending.isSuffixOf? name with
  | some [] => name
  | some front => front
  | none => name

/-- Writes the last names of paths. -/
def basename : Program :=
  strictToolOf usualManner [flag 'a' "multiple", valued 's' "suffix", flag 'z' "zero"] fun g => do
    let ending := if g.has "zero" then '\x00' else '\n'
    let several := g.has "multiple" || g.has "suffix"
    match g.operands with
    | [] => misuse "missing operand".toList
    | [name, suffix] =>
      if several then
        [name, suffix].forM fun t =>
          say (withoutEnding ((g.last? "suffix").getD []) (lastName t) ++ [ending])
      else say (withoutEnding suffix (lastName name) ++ [ending])
    | names =>
      match several, names with
      | false, _ :: _ :: extra :: _ => misuse ("extra operand ".toList ++ quoted extra)
      | _, names =>
        names.forM fun t =>
          say (withoutEnding ((g.last? "suffix").getD []) (lastName t) ++ [ending])

/-- A path without its last name. -/
def directoryName (t : Text) : Text :=
  let front := (Files.splitLast t).1
  let short := (front.reverse.dropWhile (· == '/')).reverse
  if !short.isEmpty then short else if front.isEmpty && t.head? != some '/' then ['.'] else ['/']

/-- Writes paths without their last names. -/
def dirname : Program :=
  toolOf usualManner [flag 'z' "zero"] fun g => do
    if g.operands.isEmpty then misuse "missing operand".toList
    g.operands.forM fun t => say (directoryName t ++ [if g.has "zero" then '\x00' else '\n'])

/-! ### Links -/

/-- How much of a path must be there. -/
inductive Presence where
  | all
  | allButLast
  | nothing
  deriving DecidableEq, Repr

/-- A path without links. What is missing stays as it is. -/
def canonicalMissing (fs : Files) (base : Nat) : Nat → Text → List Text → Text
  | 0, path, rest => rest.foldl Files.joinPath path
  | fuel + 1, path, rest =>
    match fs.canonical? base (if path.isEmpty then ['.'] else path), rest with
    | some t, rest =>
      rest.foldl (fun t name =>
        if name = ['.'] || name.isEmpty then t
        else if name = ['.', '.'] then directoryName t
        else Files.joinPath t name) t
    | none, rest =>
      let (front, name) := Files.splitLast path
      canonicalMissing fs base fuel front (name :: rest)

/-- A path without links, as far as its parts are there. -/
def canonicalPath (fs : Files) (base : Nat) (p : Presence) (t : Text) : Except Files.Fault Text :=
  match p with
  | .nothing =>
    if t.isEmpty then .error .notFound else .ok (canonicalMissing fs base (t.length + 1) t [])
  | p => do
    match ← fs.resolve base t true with
    | .there _ =>
      match fs.canonical? base t with
      | some t => pure t
      | none => throw .notFound
    | .free _ _ _ =>
      match p, fs.canonical? base t with
      | .allButLast, some t => pure t
      | _, _ => throw .notFound

/-- Writes what links hold, or paths without links. -/
def readlink : Program :=
  toolOf usualManner
    [flag 'f' "canonicalize", flag 'e' "canonicalize-existing", flag 'm' "canonicalize-missing",
      flag 'n' "no-newline", flag 'q' "quiet", flag 's' "silent", flag 'v' "verbose",
      flag 'z' "zero"]
    fun g => do
      if g.operands.isEmpty then misuse "missing operand".toList
      let presence : Option Presence :=
        match g.lastOf? ["canonicalize", "canonicalize-existing", "canonicalize-missing"] with
        | some "canonicalize" => some .allButLast
        | some "canonicalize-existing" => some .all
        | some _ => some .nothing
        | none => none
      let end_ : Text :=
        if g.has "no-newline" && g.operands.length = 1 then []
        else [if g.has "zero" then '\x00' else '\n']
      g.operands.forM fun file => do
        let r ← look fun fs base =>
          match presence with
          | some p => canonicalPath fs base p file
          | none => do
            let n ← fs.locate base file false
            match fs.link? n with
            | some t => pure t
            | none => throw Files.Fault.invalid
        match r with
        | .ok t => say (t ++ end_)
        | .error e =>
          if g.has "verbose" then complain 1 (faultOf file e.wording) else atLeast 1

/-- Writes paths without links. -/
def realpath : Program :=
  toolOf usualManner
    [flag 'e' "canonicalize-existing", flag 'm' "canonicalize-missing", flag 'L' "logical",
      flag 'P' "physical", flag 'q' "quiet", named "relative-to" .value,
      named "relative-base" .value, flag 's' "strip", named "no-symlinks" .nothing, flag 'z' "zero"]
    fun g => do
      if g.operands.isEmpty then misuse "missing operand".toList
      let presence : Presence :=
        match g.lastOf? ["canonicalize-existing", "canonicalize-missing"] with
        | some "canonicalize-existing" => .all
        | some _ => .nothing
        | none => .allButLast
      let above ← match g.last? "relative-to" with
        | none => pure none
        | some t =>
          match ← look fun fs base => canonicalPath fs base presence t with
          | .ok t => pure (some t)
          | .error e => giveUp (faultOf t e.wording)
      g.operands.forM fun file => do
        match ← look fun fs base => canonicalPath fs base presence file with
        | .ok t =>
          let t := match above with
            | some a => relativePath a t
            | none => t
          say (t ++ [if g.has "zero" then '\x00' else '\n'])
        | .error e =>
          if g.has "quiet" then atLeast 1 else complain 1 (faultOf file e.wording)

/-! ### Names of one's own -/

/-- The letters of made names. -/
def nameLetters : Text := "ABCDEFGHIJKLMNOPQRSTUVWXYZabcdefghijklmnopqrstuvwxyz0123456789".toList

/-- So many letters that a number stands for. -/
def lettersOf : Nat → Nat → Text
  | 0, _ => []
  | count + 1, n => (nameLetters[n % 62]?).getD 'a' :: lettersOf count (n * 16807 % 2147483647)

/-- Makes a file or a directory with a name of its own. -/
def mktemp : Program :=
  toolOf usualManner
    [flag 'd' "directory", flag 'u' "dry-run", flag 'q' "quiet", named "suffix" .value,
      ⟨some 'p', "tmpdir", .maybe⟩, flag 't' "", flag 'V' ""]
    fun g => do
      let desk ← get
      let usual := (desk.call.variable_ "TMPDIR").getD "/tmp".toList
      match g.operands with
      | _ :: _ :: _ => misuse "too many templates".toList
      | operands =>
        let template := (operands[0]?).getD "tmp.XXXXXXXXXX".toList
        let directory : Option Text :=
          if g.has "tmpdir" || operands.isEmpty || g.has "t" then
            some (match g.last? "tmpdir" with
              | some (c :: t) => c :: t
              | _ => usual)
          else none
        let suffix := (g.last? "suffix").getD
          (template.reverse.takeWhile (· != 'X')).reverse
        let body := if g.has "suffix" then template
          else template.take (template.length - suffix.length)
        let count := (body.reverse.takeWhile (· == 'X')).length
        if count < 3 then giveUp ("too few X's in template ".toList ++ quoted template)
        else
          let seed ← step (Prog.act fun w => (w.next, { w with next := w.next + 1 }))
          let letters := lettersOf count (seed * 48271 + 12345)
          let name := body.take (body.length - count) ++ letters ++ suffix
          let path := match directory with
            | some d => Files.joinPath d name
            | none => name
          let made : Except Files.Fault Unit ←
            if g.has "dry-run" then pure (.ok ())
            else if g.has "directory" then
              change fun fs base => fs.makeDirectory base path 0o700
            else change fun fs base => fs.addAt base path (.file ByteArray.empty) 0o600
          match made with
          | .ok () => sayLine path
          | .error e =>
            let kind := if g.has "directory" then "directory" else "file"
            let whole := match directory with
              | some d => Files.joinPath d template
              | none => template
            giveUp ("failed to create ".toList ++ kind.toList ++ " via template ".toList ++
              quoted whole ++ ": ".toList ++ e.wording)

/-! ### Properties -/

/-- The word for the kind of a node among its properties. -/
def statKind (content : Content) : String :=
  match content with
  | .pipe => "fifo"
  | content => kindWord content

/-- A field of what a node says of itself. -/
def statField (fs : Files) (file : Text) (n : Nat) (node : Node) (letter : Char) : Text :=
  let size := fs.sizeOf n
  let time := Clock.Moment.ofNanoseconds node.modified
  let kindBits : Nat := match node.content with
    | .file _ | .program _ => 0o100000
    | .directory _ _ => 0o040000
    | .link _ => 0o120000
    | .pipe => 0o010000
    | .device _ => 0o020000
  let stamp := Clock.formatted time "%Y-%m-%d %H:%M:%S.%N %z".toList
  match letter with
  | 'a' => Mode.digits 1 node.mode
  | 'A' => Mode.kindLetter node.content :: Mode.letters node.mode
  | 'b' => Text.ofNat ((size + 4095) / 4096 * 8)
  | 'B' => "512".toList
  | 'f' => Nat.toDigits 16 (kindBits + node.mode)
  | 'F' => (statKind node.content).toList
  | 'g' | 'u' => ['0']
  | 'G' | 'U' => "root".toList
  | 'h' => Text.ofNat (fs.linkCount n)
  | 'i' => Text.ofNat (n + 2)
  | 'm' => ['/']
  | 'n' => file
  | 'N' =>
    match node.content with
    | .link t => quotedName file ++ " -> ".toList ++ quotedName t
    | _ => quotedName file
  | 'o' => "4096".toList
  | 's' => Text.ofNat size
  | 't' | 'T' => ['0']
  | 'w' => "-".toList
  | 'W' => ['0']
  | 'x' | 'y' | 'z' => stamp
  | 'X' | 'Y' | 'Z' => Text.ofInt time.seconds
  | '%' => ['%']
  | _ => ['?']

/-- What a node says of itself, as a format says. -/
def statText (fs : Files) (file : Text) (n : Nat) (node : Node) (escapes : Bool) :
    Nat → Text → Text
  | 0, _ => []
  | _ + 1, [] => []
  | fuel + 1, '%' :: rest =>
    let flags := rest.takeWhile fun c => "-+# 0".toList.elem c
    let rest := rest.drop flags.length
    let width := rest.takeWhile Char.isDigit
    let rest := rest.drop width.length
    match rest with
    | letter :: rest =>
      let t := statField fs file n node letter
      let w := Numeral.value 10 0 width
      let padded := if flags.elem '-' then t.rightpad w ' '
        else t.leftpad w (if flags.elem '0' then '0' else ' ')
      padded ++ statText fs file n node escapes fuel rest
    | [] => ['%']
  | fuel + 1, '\\' :: rest =>
    if escapes then
      let (c, rest) := Format.escape rest
      c :: statText fs file n node escapes fuel rest
    else '\\' :: statText fs file n node escapes fuel rest
  | fuel + 1, c :: rest => c :: statText fs file n node escapes fuel rest

/-- The format of all properties. -/
def statUsual : String :=
  "  File: %N\n  Size: %-10s\tBlocks: %-10b IO Block: %-6o %F\n" ++
    "Device: 0,50\tInode: %-11i Links: %h\n" ++
    "Access: (%04a/%A)  Uid: (    0/    root)   Gid: (    0/    root)\n" ++
    "Access: %x\nModify: %y\nChange: %z\n Birth: -\n"

/-- Writes what nodes say of themselves. -/
def stat : Program :=
  toolOf usualManner
    [flag 'L' "dereference", flag 'f' "file-system", valued 'c' "format", named "printf" .value,
      flag 't' "terse", named "cached" .value]
    fun g => do
      if g.operands.isEmpty then misuse "missing operand".toList
      g.operands.forM fun file => do
        match ← (if g.has "dereference" then nodeBehind file else nodeAt file) with
        | .error e =>
          complain 1 ("cannot statx ".toList ++ quotedName file ++ ": ".toList ++ e.wording)
        | .ok (n, node) => do
          let written ← look fun fs _ =>
            let text (escapes : Bool) (t : Text) : Text :=
              statText fs file n node escapes (t.length + 1) t
            match g.last? "format", g.last? "printf" with
            | some t, _ => text false t ++ ['\n']
            | none, some t => text true t
            | none, none => text false statUsual.toList
          say written

end Console.Host.Tool
