import Std.Data.HashMap
import Console.Host.Tool.Difference.Layout
import Console.Host.Tool.Paths

/-! Comparisons of files and of directories: which lines count as equal, which changes do not count,
    and what is said about files that only one side has. -/

namespace Console.Host.Tool

open Work

namespace Difference

/-- What of the blanks in lines does not count. -/
structure Blanks where
  tabs : Bool
  trailing : Bool
  amount : Bool
  all : Bool

/-- Whether blanks at the ends of lines do not count. -/
def Blanks.ignoresTrailing (b : Blanks) : Bool := b.trailing || b.amount || b.all

/-- What does not count. -/
structure Ignoring where
  case : Bool
  blanks : Blanks
  emptyLines : Bool
  /-- What lines match that do not count. -/
  lines : List Regex.Matcher

/-- A comparison. -/
structure Settings where
  look : Look
  ignoring : Ignoring
  isBrief : Bool
  tellsSame : Bool
  isRecursive : Bool
  /-- Whether files count as empty that are missing in the first place, or in the second one. -/
  fillsFirst : Bool
  fillsSecond : Bool
  followsLinks : Bool
  isThorough : Bool
  isText : Bool
  dropsReturns : Bool
  horizon : Nat
  labels : List Text
  excluded : List Host.Pattern
  startsAt : Option Text
  ignoresNameCase : Bool
  /-- The options as they were given, for headings. -/
  options : List Text

/-! ### Lines -/

/-- A text without blanks at its end. -/
def withoutTrailing (t : Text) : Text := (t.reverse.dropWhile Numeral.isSpace).reverse

/-- A text in which each row of blanks is one blank. -/
def singleBlanks : Bool → Text → Text
  | _, [] => []
  | isBehind, c :: rest =>
    if Numeral.isSpace c then
      if isBehind then singleBlanks true rest else ' ' :: singleBlanks true rest
    else c :: singleBlanks false rest

/-- What of a line counts. -/
def Ignoring.key (g : Ignoring) (t : Text) : Text :=
  let b := g.blanks
  let t := if b.tabs then untabbed 8 0 t else t
  let t := if b.all then t.filter fun c => !Numeral.isSpace c
    else if b.amount then singleBlanks false (withoutTrailing t)
    else if b.trailing then withoutTrailing t
    else t
  if g.case then t.map Char.toLower else t

/-- Whether changes of a line do not count. -/
def Ignoring.skips (g : Ignoring) (t : Text) : Bool :=
  let isBlank := t.isEmpty || g.blanks.ignoresTrailing && t.all Numeral.isSpace
  g.emptyLines && isBlank || g.lines.any fun m => (m.find? none t).isSome

/-- Whether a change does not count. -/
def Ignoring.isTrivial (g : Ignoring) (a b : Side) (c : Change) : Bool :=
  let skipped (s : Side) (start count : Nat) : Bool :=
    (List.range count).all fun n => g.skips (s.lines.getD (start + n) [])
  skipped a c.start c.deleted && skipped b c.otherStart c.inserted

/-- The lines of a text. -/
def sideOf (dropsReturns : Bool) (name time t : Text) : Side :=
  let lines := linesOf t
  let lines := if dropsReturns then lines.map fun l =>
      if l.getLast? == some '\r' then l.dropLast else l
    else lines
  ⟨name, time, lines.toArray, t.isEmpty || t.getLast? == some '\n'⟩

/-- The numbers of keys: the same for keys that are the same. -/
def numbered {α : Type} [BEq α] [Hashable α] (keys : List α) : List Nat :=
  let start : Std.HashMap α Nat × List Nat := (∅, [])
  (keys.foldl (fun (seen, done) key =>
    match seen[key]? with
    | some n => (seen, n :: done)
    | none => (seen.insert key seen.size, seen.size :: done)) start).2.reverse

/-- How many lines at the beginning of two lists are the same. -/
def commonStart {α : Type} [BEq α] : List α → List α → Nat
  | a :: s, b :: t => if a == b then commonStart s t + 1 else 0
  | _, _ => 0

/-- Whether the end of a file without a newline tells lines apart. -/
def Settings.keepsEnds (s : Settings) : Bool :=
  match s.look.form with
  | .backward | .forward => false
  | _ => true

/-- The changes between two files. What is the same at both ends is left out, but for some lines. -/
def Settings.steps (s : Settings) (a b : Side) : List Step :=
  let whole (x : Side) : List (Text × Bool) :=
    x.lines.toList.zipIdx.map fun (t, n) => (t, x.hasEnd n || !s.keepsEnds)
  let (l, r) := (whole a, whole b)
  let front := commonStart l r - s.horizon
  let (l, r) := (l.drop front, r.drop front)
  let back :=
    if s.keepsEnds && a.isEnded != b.isEnded then 0 else commonStart l.reverse r.reverse - s.horizon
  let (l, r) := (l.take (l.length - back), r.take (r.length - back))
  let key (line : Text × Bool) : Text × Bool :=
    (s.ignoring.key line.1, line.2 || s.ignoring.blanks.ignoresTrailing)
  let numbers := numbered ((l ++ r).map key)
  let changes := script s.isThorough numbers.length (numbers.take l.length).toArray
    (numbers.drop l.length).toArray
  changes.map fun c =>
    let c := { c with start := c.start + front, otherStart := c.otherStart + front }
    (c, s.ignoring.isTrivial a b c)

/-! ### Files -/

/-- A file as one side of a comparison. -/
structure Entry where
  path : Text
  /-- What is there; nothing if the file counts as empty. -/
  node : Option (Nat × Node)

/-- Whether a side is a directory. -/
def Entry.isDirectory (e : Entry) : Bool := e.node.any fun (_, node) => node.isDirectory

/-- The name of a file in quotes if it has characters of some kinds. -/
def headingName (t : Text) : Text :=
  let inner (c : Char) : Text :=
    match c with
    | '"' => ['\\', '"']
    | '\\' => ['\\', '\\']
    | c => if ' ' ≤ c then [c] else escaped c
  let u := t.flatMap inner
  if u.length = t.length && !t.elem ' ' then t else '"' :: u ++ ['"']

/-- The name under which a side is spoken of. -/
def Settings.labelOf (s : Settings) (place : Nat) (e : Entry) : Text := s.labels.getD place e.path

/-- The contents of a side. -/
def Entry.read (e : Entry) : Work (Except Text Text) :=
  match e.node with
  | none => pure (.ok [])
  | some _ => contents e.path

/-- How a side is compared. -/
def Settings.side (s : Settings) (place : Nat) (e : Entry) (t : Text) : Work Side := do
  let now ← Tool.look fun fs _ => fs.now
  let modified := match e.node with
    | none => 0
    | some (_, node) => if e.path = ['-'] then now else node.modified
  let time := Clock.formatted (Clock.Moment.ofNanoseconds modified)
    "%Y-%m-%d %H:%M:%S.%N %z".toList
  match s.labels[place]? with
  | some label => pure (sideOf s.dropsReturns label [] t)
  | none => pure (sideOf s.dropsReturns (headingName e.path) ('\t' :: time) t)

/-- The heading of a file among others. -/
def Settings.title (s : Settings) (isBelow : Bool) (a b : Entry) : Text :=
  if isBelow then
    let words := s.options ++ [s.labelOf 0 a, s.labelOf 1 b]
    "diff".toList ++ words.flatMap (fun w => ' ' :: shownName false w) ++ ['\n']
  else []

/-- Tells in short that files differ. -/
def Settings.tellDiffer (s : Settings) (kind : String) (a b : Entry) : Work Unit :=
  sayLine (kind.toList ++ ' ' :: s.labelOf 0 a ++ " and ".toList ++ s.labelOf 1 b ++
    " differ".toList)

/-- Shows how two texts differ. -/
def Settings.compareTexts (s : Settings) (isBelow : Bool) (a b : Entry) (t u : Text) :
    Work Nat := do
  let x ← s.side 0 a t
  let y ← s.side 1 b u
  let steps := s.steps x y
  let status := if steps.all Prod.snd then 0 else 1
  let incomplete := if s.keepsEnds then [] else
    [(a, x), (b, y)].filter fun (_, side) => !side.isEnded
  if s.isBrief then
    if status > 0 then s.tellDiffer "Files" a b
  else if status > 0 || s.look.showsSame then
    say (s.title isBelow a b ++ s.look.heading x y ++ s.look.shown x y steps)
  incomplete.forM fun (e, _) =>
    complain 0 (e.path ++ ": No newline at end of file\n".toList)
  pure (if incomplete.isEmpty then status else 2)

/-- How many octets of a file tell whether it is text. -/
def sampleSize : Nat := 4096

/-- Whether octets are counted alone if files are compared in short. -/
def Settings.isPlain (s : Settings) : Bool :=
  let g := s.ignoring
  !(g.case || g.emptyLines || !g.lines.isEmpty || g.blanks.tabs || g.blanks.ignoresTrailing ||
    s.dropsReturns)

/-- Compares two files that are no directories. -/
def Settings.compareFiles (s : Settings) (isBelow : Bool) (a b : Entry) : Work Nat := do
  let read (e : Entry) : Work (Option Text) := do
    match ← e.read with
    | .ok t => pure (some t)
    | .error wording =>
      complain 2 (e.path ++ ": ".toList ++ wording)
      pure none
  match ← read a, ← (if a.path = ['-'] && b.path = ['-'] then pure none else read b) with
  | some t, some u =>
    let isBinary (t : Text) : Bool := (t.take sampleSize).elem '\x00'
    if s.isBrief && s.isPlain then
      if t = u then pure 0
      else
        s.tellDiffer "Files" a b
        pure 1
    else if !s.isText && (isBinary t || isBinary u) then
      if t = u then pure 0
      else
        s.tellDiffer (if s.isBrief then "Files" else "Binary files") a b
        pure 1
    else s.compareTexts isBelow a b t u
  | some _, none => pure (if b.path = ['-'] then 0 else 2)
  | _, _ => pure 2

/-! ### Directories -/

/-- What a path leads to; a hyphen stands for the input of the tool. -/
def Settings.nodeOf (s : Settings) (path : Text) : Work (Except Files.Fault (Nat × Node)) :=
  if path = ['-'] then
    step (Prog.see fun w =>
      match (w.opening? 0).map Opening.target with
      | some (.node n) => match w.files.node? n with
        | some node => .ok (n, node)
        | none => .ok (0, ⟨.pipe, 0, 0⟩)
      | some _ => .ok (0, ⟨.pipe, 0, 0⟩)
      | none => .error .notFound)
  else if s.followsLinks then nodeBehind path
  else nodeAt path

/-- Whether the two sides are the same file. -/
def isSameFile (a b : Entry) : Bool :=
  match a.node, b.node with
  | some (m, x), some (n, _) =>
    m = n && (match x.content with
      | .pipe => a.path = b.path
      | _ => true)
  | _, _ => false

/-- Tells that files of two kinds are not compared. -/
def Settings.tellKinds (s : Settings) (a b : Entry) : Work Unit :=
  let kind (e : Entry) : Text := (e.node.elim "" fun (_, node) => kindWord node.content).toList
  sayLine ("File ".toList ++ s.labelOf 0 a ++ " is a ".toList ++ kind a ++ " while file ".toList ++
    s.labelOf 1 b ++ " is a ".toList ++ kind b)

/-- The names in two directories, each with whether it is in the first and the second one. -/
def Settings.namesOf (s : Settings) (left right : List Text) : List (Option Text × Option Text) :=
  let wanted (l : List Text) : List Text := l.filter fun name =>
    !(s.excluded.any fun p => p.matchesAll name) &&
      s.startsAt.all fun start => compareText name start != .lt
  let key (name : Text) : Text := if s.ignoresNameCase then name.map Char.toLower else name
  let order (x y : Text) : Bool :=
    ((compareText (key x) (key y)).then (compareText x y)) != .gt
  let (left, right) := ((wanted left).mergeSort order, (wanted right).mergeSort order)
  let rec joined : Nat → List Text → List Text → List (Option Text × Option Text)
    | 0, _, _ => []
    | _ + 1, [], r => r.map fun name => (none, some name)
    | _ + 1, l, [] => l.map fun name => (some name, none)
    | fuel + 1, a :: l, b :: r =>
      match compareText (key a) (key b) with
      | .eq => (some a, some b) :: joined fuel l r
      | .lt => (some a, none) :: joined fuel l (b :: r)
      | .gt => (none, some b) :: joined fuel (a :: l) r
  joined (left.length + right.length + 1) left right

/-- What is to be done with two entries. -/
inductive Errand where
  /-- They are compared. -/
  | compare (a b : Entry)
  /-- All is told already, and this is the status. -/
  | told (status : Nat)

/-- Finds out what is to be done with two entries of directories, one of which may be missing. -/
def Settings.errandBelow (s : Settings) (left right : Text) (l r : Option Text) : Work Errand := do
  let only (directory name : Text) : Work Errand := do
    sayLine ("Only in ".toList ++ directory ++ ": ".toList ++ name)
    pure (.told 1)
  let name := (l.orElse fun _ => r).getD []
  let (x, y) := (Files.joinPath left (l.getD name), Files.joinPath right (r.getD name))
  let found (path : Text) (name : Option Text) : Work (Option Entry) :=
    match name with
    | none => pure (some ⟨path, none⟩)
    | some _ => do
      match ← s.nodeOf path with
      | .ok node => pure (some ⟨path, some node⟩)
      | .error e =>
        complain 2 (path ++ ": ".toList ++ e.wording)
        pure none
  if l.isNone && !s.fillsFirst then only right name
  else if r.isNone && !s.fillsSecond then only left name
  else
    match ← found x l, ← found y r with
    | some a, some b => pure (.compare a b)
    | _, _ => pure (.told 2)

/-- Compares two entries, so many levels deep. -/
def Settings.compareEntries (s : Settings) : Nat → Bool → Entry → Entry → Work Nat
  | 0, _, _, _ => pure 2
  | fuel + 1, isBelow, a, b => do
    let names (e : Entry) : Work (List Text) :=
      if e.node.isNone then pure []
      else do pure (((← Tool.look fun fs base => namesIn fs base e.path).toOption).getD [])
    let compareNames : Work Nat := do
      let pairs := s.namesOf (← names a) (← names b)
      pairs.foldlM (fun status (l, r) => do
        match ← s.errandBelow a.path b.path l r with
        | .compare x y => do pure (max status (← s.compareEntries fuel true x y))
        | .told n => pure (max status n)) 0
    let status ←
      if isSameFile a b && !s.look.showsSame then pure 0
      else if a.isDirectory && b.isDirectory then
        if isBelow && !s.isRecursive then
          sayLine ("Common subdirectories: ".toList ++ a.path ++ " and ".toList ++ b.path)
          pure 0
        else compareNames
      else if a.isDirectory || b.isDirectory then
        if (a.node.isNone || b.node.isNone) && s.isRecursive then compareNames
        else if a.node.isNone || b.node.isNone then
          let e := if a.node.isNone then b else a
          sayLine ("Only in ".toList ++ directoryName e.path ++ ": ".toList ++ lastName e.path)
          pure 1
        else
          s.tellKinds a b
          pure 1
      else
        let isLink (e : Entry) : Bool := e.node.any fun (_, node) =>
          match node.content with
          | .link _ => true
          | _ => false
        if isLink a != isLink b then
          s.tellKinds a b
          pure 1
        else s.compareFiles isBelow a b
    if status = 0 && s.tellsSame && !a.isDirectory then
      sayLine ("Files ".toList ++ s.labelOf 0 a ++ " and ".toList ++ s.labelOf 1 b ++
        " are identical".toList)
    pure status

/-- How deep directories are compared. -/
def deepest : Nat := 1000

/-- Compares two paths. Of a directory and a file the file of that name in it is compared. -/
def Settings.comparePaths (s : Settings) (left right : Text) : Work Nat := do
  let x ← s.nodeOf left
  let y ← s.nodeOf right
  let report (path : Text) (e : Files.Fault) : Work Unit :=
    complain 2 (path ++ ": ".toList ++ e.wording)
  let inside (directory file : Text) (use : Entry → Work Nat) : Work Nat := do
    if file = ['-'] then giveUp "cannot compare '-' to a directory".toList
    else
      let path := Files.joinPath directory (lastName file)
      match ← s.nodeOf path with
      | .ok node => use ⟨path, some node⟩
      | .error e => do
        report path e
        pure 2
  match x, y with
  | .ok m, .ok n =>
    if m.2.isDirectory && !n.2.isDirectory then
      inside left right fun a => s.compareEntries deepest false a ⟨right, some n⟩
    else if n.2.isDirectory && !m.2.isDirectory then
      inside right left fun b => s.compareEntries deepest false ⟨left, some m⟩ b
    else s.compareEntries deepest false ⟨left, some m⟩ ⟨right, some n⟩
  | .ok m, .error .notFound =>
    if s.fillsSecond then s.compareEntries deepest false ⟨left, some m⟩ ⟨right, none⟩
    else do
      report right .notFound
      pure 2
  | .error .notFound, .ok n =>
    if s.fillsFirst then s.compareEntries deepest false ⟨left, none⟩ ⟨right, some n⟩
    else do
      report left .notFound
      pure 2
  | x, y => do
    match x with
    | .error e => report left e
    | .ok _ => pure ()
    match y with
    | .error e => report right e
    | .ok _ => pure ()
    pure 2

end Difference

end Console.Host.Tool
