import Console.Host.Pattern
import Console.Host.Tool.Clock
import Console.Host.Tool.Directories
import Console.Host.Tool.Version

/-! Listing of directories: which of their entries are shown, in which order, what is told of each,
    and how they are arranged. -/

namespace Console.Host.Tool.Listing

open Work

/-! ### Styles -/

/-- How entries are arranged. -/
inductive Layout where
  | single
  | long
  | commas
  | columns
  | rows
  deriving DecidableEq, Repr

/-- By what entries are put in order. -/
inductive Order where
  | entries
  | name
  | size
  | time
  | extension
  | version
  | width
  deriving DecidableEq, Repr

/-- How names are quoted. -/
inductive Quoting where
  | literal
  | shell
  | shellAlways
  | escape
  | doubled
  deriving DecidableEq, Repr

/-- Which kinds of entries are marked behind their names. -/
inductive Marks where
  | none
  | directories
  | kinds
  | programs
  deriving DecidableEq, Repr

/-- Which entries are left out by their names. -/
inductive Hiding where
  | dotted
  | dots
  | nothing
  deriving DecidableEq, Repr

/-- Which links are followed. -/
inductive Follows where
  | undecided
  | never
  | arguments
  | always
  deriving DecidableEq, Repr

/-- How sizes are written: in the largest unit that leaves a whole number, or in a given unit, the
    letters of which can stand behind them. -/
inductive Measure where
  | readable (base : Nat)
  | units (size : Nat) (letters : Text)
  deriving DecidableEq, Repr

/-- How a listing looks. -/
structure Style where
  layout : Layout
  order : Option Order
  reverses : Bool
  directoriesFirst : Bool
  showsInode : Bool
  showsBlocks : Bool
  showsOwner : Bool
  showsGroup : Bool
  showsAuthor : Bool
  isNumeric : Bool
  sizes : Measure
  blocks : Measure
  marks : Marks
  quoting : Quoting
  masksControls : Bool
  omits : Hiding
  /-- Patterns of names that are left out, the first of them unless all entries are shown. -/
  hidden : List Text
  ignored : List Text
  follows : Follows
  descends : Bool
  isImmediate : Bool
  /-- The formats of times, of old ones and of recent ones. -/
  times : Text × Text
  /-- Whether another time than that of the last change is asked for. -/
  otherTime : Bool
  width : Nat
  tab : Nat
  ending : Char

/-- The style without options. -/
def Style.usual : Style where
  layout := .single
  order := none
  reverses := false
  directoriesFirst := false
  showsInode := false
  showsBlocks := false
  showsOwner := true
  showsGroup := true
  showsAuthor := false
  isNumeric := false
  sizes := .units 1 []
  blocks := .units 1024 []
  marks := .none
  quoting := .literal
  masksControls := false
  omits := .dotted
  hidden := []
  ignored := []
  follows := .undecided
  descends := false
  isImmediate := false
  times := ("%b %e  %Y".toList, "%b %e %H:%M".toList)
  otherTime := false
  width := 80
  tab := 8
  ending := '\n'

/-- A size in the largest unit in which it is at least one, rounded up. -/
def inLargestUnit (base n : Nat) : Text :=
  let letters : Text := if base = 1000 then "kMGTPE".toList else "KMGTPE".toList
  let rec go (unit : Nat) : List Char → Text
    | [] => Text.ofNat n
    | c :: rest =>
      let tenths := (n * 10 + unit - 1) / unit
      if tenths < 100 then Text.ofNat (tenths / 10) ++ ['.', Nat.digitChar (tenths % 10), c]
      else
        let whole := (n + unit - 1) / unit
        if whole < base || rest.isEmpty then Text.ofNat whole ++ [c] else go (unit * base) rest
  if n < base then Text.ofNat n else go base letters

/-- A size as a style writes it. -/
def Measure.write (m : Measure) (n : Nat) : Text :=
  match m with
  | .readable base => inLargestUnit base n
  | .units size letters => Text.ofNat ((n + size - 1) / max 1 size) ++ letters

/-- The measure that a text stands for. -/
def measure? (t : Text) : Option Measure :=
  match String.ofList t with
  | "human-readable" => some (.readable 1024)
  | "si" => some (.readable 1000)
  | _ =>
    (size? t).bind fun n =>
      if n = 0 then none
      else some (.units n (if (t.head?.map Char.isDigit).getD false then [] else t))

/-! ### Entries -/

/-- An entry: its name, and what is told of it. -/
structure Entry where
  name : Text
  number : Nat
  node : Node
  size : Nat
  links : Nat
  /-- What a link leads to. -/
  target : Option Node
  /-- Whether what it leads to was asked for and is not there. -/
  isLost : Bool

/-- The size of the blocks of an entry. -/
def Entry.blocks (e : Entry) : Nat :=
  match e.node.content with
  | .file _ | .program _ => (e.size + 4095) / 4096 * 4096
  | .directory _ _ => 4096
  | _ => 0

/-- The text that a link holds. -/
def Entry.link? (e : Entry) : Option Text :=
  match e.node.content with
  | .link t => some t
  | _ => none

/-- Whether an entry is a directory or leads to one. -/
def Entry.leadsToDirectory (e : Entry) : Bool :=
  e.node.isDirectory || e.target.any Node.isDirectory

/-- The entry of a name for a path. -/
def entryOf (fs : Files) (base : Nat) (name path : Text) (follows : Bool) :
    Except Files.Fault Entry := do
  let own ← fs.locate base path false
  let behind := fs.find? base path
  let n := if follows then behind.getD own else own
  match fs.node? n with
  | none => throw .notFound
  | some node =>
    pure ⟨name, n, node, fs.sizeOf n, fs.linkCount n, behind.bind fs.node?,
      follows && behind.isNone⟩

/-- Whether a pattern stands for a name. A point in front must be in the pattern itself. -/
def fits (name pattern : Text) : Bool :=
  (name.head? != some '.' || pattern.head? == some '.') &&
    Pattern.matchesAll (Pattern.ofEscaped pattern) name

/-- Whether an entry is shown. -/
def Style.shows (s : Style) (name : Text) : Bool :=
  let isDotted := name.head? == some '.'
  let isDots := name == ['.'] || name == ['.', '.']
  let isHidden := match s.omits with
    | .dotted => isDotted || s.hidden.any (fits name)
    | .dots => isDots
    | .nothing => false
  !isHidden && !s.ignored.any (fits name)

/-- The order of two names. -/
def compareBy (order : Order) (a b : Entry) : Ordering :=
  let behindPoint (t : Text) : Text :=
    if t.elem '.' then '.' :: (t.reverse.takeWhile (· != '.')).reverse else []
  let first := match order with
    | .size => compare b.size a.size
    | .time => compare b.node.modified a.node.modified
    | .extension => compareText (behindPoint a.name) (behindPoint b.name)
    | .version => compareNames a.name b.name
    | .width => compare a.name.length b.name.length
    | _ => .eq
  first.then (compareText a.name b.name)

/-- The order in which a style shows entries. -/
def Style.orderOf (s : Style) : Order :=
  match s.order with
  | some o => o
  | none => if s.otherTime && s.layout != .long then .time else .name

/-- Entries in the order of a style. -/
def Style.sort (s : Style) (l : List Entry) : List Entry :=
  let sorted := match s.orderOf with
    | .entries => l
    | o =>
      l.mergeSort fun a b => (if s.reverses then compareBy o b a else compareBy o a b) != .gt
  if s.directoriesFirst then
    sorted.filter Entry.leadsToDirectory ++ sorted.filter fun e => !e.leadsToDirectory
  else sorted

/-! ### Names -/

/-- A name between double quotes, or without them with blanks behind backslashes. -/
def escapedName (isDoubled : Bool) (t : Text) : Text :=
  t.flatMap fun c =>
    if c = '\\' || c = (if isDoubled then '"' else ' ') then ['\\', c]
    else if isPrintable c then [c]
    else escaped c

/-- A name as a style quotes it. -/
def Style.quote (s : Style) (colons : Bool) (t : Text) : Text :=
  match s.quoting with
  | .literal =>
    if s.masksControls then t.map fun c => if isPrintable c then c else '?' else t
  | .shell => shownName colons t
  | .shellAlways => quotedName t
  | .escape => escapedName false t
  | .doubled => '"' :: escapedName true t ++ ['"']

/-- The mark of a kind of node. -/
def Marks.of (m : Marks) (node : Node) : Text :=
  match node.content with
  | .directory _ _ => if m == .none then [] else ['/']
  | .link _ => if m == .kinds || m == .programs then ['@'] else []
  | .pipe => if m == .kinds || m == .programs then ['|'] else []
  | .device _ => []
  | _ => if m == .programs && Nat.land node.mode 0o111 != 0 then ['*'] else []

/-- Text moved to the right end of a width. -/
def rightwards (width : Nat) (t : Text) : Text := t.leftpad width ' '

/-- Text filled up to a width. -/
def leftwards (width : Nat) (t : Text) : Text := t.rightpad width ' '

/-- The greatest length of some texts. -/
def widest (l : List Text) : Nat := l.foldl (fun n t => max n t.length) 0

/-- The number of a node as it is shown. -/
def inodeText (e : Entry) : Text := Text.ofNat (e.number + 2)

/-- The names of entries with what is shown in front of them and behind them, but for long lines. -/
def Style.labels (s : Style) (l : List Entry) : List Text :=
  let isAligned := s.layout != .commas
  let inodes := if isAligned then widest (l.map inodeText) else 0
  let sizes := if isAligned then widest (l.map fun e => s.blocks.write e.blocks) else 0
  let quotes := s.quoting == .shell && (s.layout == .columns || s.layout == .rows) &&
    l.any fun e => s.quote false e.name != e.name
  l.map fun e =>
    let name := s.quote false e.name
    (if s.showsInode then rightwards inodes (inodeText e) ++ [' '] else []) ++
      (if s.showsBlocks then rightwards sizes (s.blocks.write e.blocks) ++ [' '] else []) ++
      (if quotes && name == e.name then [' '] else []) ++ name ++ s.marks.of e.node

/-! ### Long lines -/

/-- The time of an entry. Times of the last half of a year are recent. -/
def Style.timeText (s : Style) (now : Int) (e : Entry) : Text :=
  let half : Int := 15778476 * Clock.second
  let isRecent := now - half < e.node.modified && e.node.modified ≤ now
  Clock.formatted (Clock.Moment.ofNanoseconds e.node.modified)
    (if isRecent then s.times.2 else s.times.1)

/-- The numbers of a device. -/
def deviceText (d : Device) : Text :=
  match d with
  | .null => "1, 3".toList
  | .zero => "1, 5".toList
  | .full => "1, 7".toList
  | .terminal => "5, 0".toList

/-- The size of an entry as a long line shows it. -/
def Style.sizeText (s : Style) (e : Entry) : Text :=
  match e.node.content with
  | .device d => deviceText d
  | _ => s.sizes.write e.size

/-- Long lines for entries. -/
def Style.longLines (s : Style) (now : Int) (l : List Entry) : List Text :=
  let person (e : Entry) : Text :=
    if e.isLost then ['?'] else if s.isNumeric then ['0'] else "root".toList
  let links (e : Entry) : Text := if e.isLost then ['?'] else Text.ofNat e.links
  let size (e : Entry) : Text := if e.isLost then ['?'] else s.sizeText e
  let inodes := widest (l.map inodeText)
  let blocks := widest (l.map fun e => s.blocks.write e.blocks)
  let linkWidth := widest (l.map links)
  let personWidth := widest (l.map person)
  let sizeWidth := widest (l.map size)
  let quotes := s.quoting == .shell && l.any fun e => s.quote false e.name != e.name
  l.map fun e =>
    let name := s.quote false e.name
    let whose := leftwards personWidth (person e) ++ [' ']
    (if s.showsInode then rightwards inodes (inodeText e) ++ [' '] else []) ++
      (if s.showsBlocks then rightwards blocks (s.blocks.write e.blocks) ++ [' '] else []) ++
      (if e.isLost then "l?????????".toList
        else Mode.kindLetter e.node.content :: Mode.letters e.node.mode) ++ ' ' ::
      rightwards linkWidth (links e) ++ ' ' :: (if s.showsOwner then whose else []) ++
      (if s.showsGroup then whose else []) ++ (if s.showsAuthor then whose else []) ++
      rightwards sizeWidth (size e) ++ ' ' ::
      (if e.isLost then rightwards 12 ['?'] else s.timeText now e) ++ ' ' ::
      (if quotes && name == e.name then [' '] else []) ++ name ++
      (match e.link? with
        | some t =>
          " -> ".toList ++ s.quote false t ++ (e.target.map s.marks.of).getD []
        | none => s.marks.of e.node)

/-! ### Arrangements -/

/-- The least width of a column. -/
def leastColumn : Nat := 3

/-- The columns that entries of some lengths need if there are so many, when an index says in which
    column an entry stands. -/
def columnWidths (lengths : List Nat) (count : Nat) (columnOf : Nat → Nat) : List Nat :=
  (lengths.zipIdx).foldl (fun widths (n, i) =>
    let c := columnOf i
    let needed := if c + 1 = count then n else n + 2
    widths.modify c (max needed)) (List.replicate count leastColumn)

/-- The most columns in which entries fit into a line, with their widths. -/
def bestColumns (lengths : List Nat) (width : Nat) (byRows : Bool) : List Nat :=
  let n := lengths.length
  let most := min n (max 1 ((width + leastColumn - 1) / leastColumn))
  let widths (count : Nat) : List Nat :=
    let rows := (n + count - 1) / count
    columnWidths lengths count fun i => if byRows then i % count else i / rows
  let fits (count : Nat) : Bool := (widths count).foldl (· + ·) 0 < width
  let best := ((List.range (most + 1)).reverse.find? fun c => c ≥ 1 && fits c).getD 1
  widths best

/-- Blanks and tabs from one place of a line to another. -/
def gap (tab : Nat) : Nat → Nat → Nat → Text
  | 0, _, _ => []
  | fuel + 1, start, stop =>
    if start ≥ stop then []
    else if tab != 0 && stop / tab > (start + 1) / tab then
      '\t' :: gap tab fuel (start + tab - start % tab) stop
    else ' ' :: gap tab fuel (start + 1) stop

/-- A line of a table. -/
def tableLine (tab : Nat) : Nat → List Text → List Nat → Text
  | _, [], _ => []
  | _, [t], _ => t
  | place, t :: rest, widths =>
    let width := widths.headD 0
    t ++ gap tab width (place + t.length) (place + width) ++
      tableLine tab (place + width) rest widths.tail

/-- Entries as a table. -/
def table (s : Style) (byRows : Bool) (labels : List Text) : List Text :=
  let widths := bestColumns (labels.map List.length) s.width byRows
  let count := max 1 widths.length
  let rows := (labels.length + count - 1) / count
  let at_ (row : Nat) : List Text :=
    (List.range count).filterMap fun c =>
      labels[if byRows then row * count + c else c * rows + row]?
  (List.range rows).map fun row => tableLine s.tab 0 (at_ row) widths

/-- Entries behind one another with a separator, in lines that are not too long. -/
def flowing (width : Nat) (separator : Text) : Nat → List Text → Text
  | _, [] => []
  | _, [t] => t
  | place, t :: u :: rest =>
    let place := place + t.length
    if width = 0 || place + u.length + 2 < width then
      t ++ separator ++ ' ' :: flowing width separator (place + 2) (u :: rest)
    else t ++ separator ++ '\n' :: flowing width separator 0 (u :: rest)

/-- Entries as a style arranges them. -/
def Style.arrange (s : Style) (now : Int) (l : List Entry) : Text :=
  let lines (l : List Text) : Text := l.flatMap fun t => t ++ [s.ending]
  if l.isEmpty then []
  else
    match s.layout with
    | .single => lines (s.labels l)
    | .long => lines (s.longLines now l)
    | .commas => flowing s.width [','] 0 (s.labels l) ++ [s.ending]
    | .columns =>
      if s.width = 0 then flowing 0 [' '] 0 (s.labels l) ++ [s.ending]
      else lines (table s false (s.labels l))
    | .rows =>
      if s.width = 0 then flowing 0 [' '] 0 (s.labels l) ++ [s.ending]
      else lines (table s true (s.labels l))

/-! ### Directories -/

/-- The entries of a directory, with the paths of those that cannot be followed. -/
def entriesOf (s : Style) (fs : Files) (base : Nat) (path : Text) :
    Except Files.Fault (List Entry × List Text) := do
  let n ← fs.locate base path true
  match fs.directory? n with
  | none => throw .notDirectory
  | some (_, entries) =>
    let names := (if s.omits == .nothing then [['.'], ['.', '.']] else []) ++
      entries.map Prod.fst
    let inside (name : Text) : Text := if path = ['.'] then name else Files.joinPath path name
    let l := (names.filter s.shows).filterMap fun name =>
      (entryOf fs base name (inside name) (s.follows == .always)).toOption
    pure (l, (l.filter Entry.isLost).map fun e => inside e.name)

/-- Whether a style needs to know more of an entry than its name. -/
def Style.looksClosely (s : Style) : Bool :=
  s.layout == .long || s.showsBlocks || s.showsInode || s.orderOf == .time || s.orderOf == .size

/-- The line in front of a directory that tells how much is in it. -/
def Style.total (s : Style) (l : List Entry) : Text :=
  if s.layout == .long || s.showsBlocks then
    "total ".toList ++ s.blocks.write (l.foldl (fun n e => n + e.blocks) 0) ++ [s.ending]
  else []

/-- Lists directories one after the other, with those below them if that is asked for. -/
def listDirectories (s : Style) (isNamed : Bool) : Nat → Bool → List Text → Work Unit
  | 0, _, _ => pure ()
  | _ + 1, _, [] => pure ()
  | fuel + 1, isFirst, path :: rest => do
    match ← look fun fs base => entriesOf s fs base path with
    | .error e =>
      complain 2 ("cannot open directory ".toList ++ quotedName path ++ ": ".toList ++ e.wording)
      listDirectories s isNamed fuel isFirst rest
    | .ok (l, lost) =>
      let now ← look fun fs _ => fs.now
      if s.looksClosely then
        lost.forM fun t =>
          complain 1 ("cannot access ".toList ++ quotedName t ++ ": ".toList ++
            Files.Fault.notFound.wording)
      let l := s.sort l
      if isNamed || s.descends then
        if !isFirst then say ['\n']
        say (s.quote true path ++ [':', s.ending])
      say (s.total l ++ s.arrange now l)
      let below := if s.descends then
          (l.filter fun e => e.node.isDirectory && !Files.isDots e.name).map fun e =>
            Files.joinPath path e.name
        else []
      listDirectories s isNamed fuel false (below ++ rest)

/-- How many directories are listed at most. -/
def mostDirectories : Nat := 1000000

/-- Lists operands: those that are no directories first. -/
def list (s : Style) (operands : List Text) : Work Unit := do
  let named := if operands.isEmpty then [['.']] else operands
  let follows : Follows := match s.follows with
    | .undecided => if s.isImmediate || s.marks == .programs || s.layout == .long then .never
      else .undecided
    | f => f
  let found ← named.mapM fun path => do
    let e ← look fun fs base =>
      match follows with
      | .never => entryOf fs base path path false
      | .undecided => do
        let n ← match fs.locate base path true with
          | .error .notFound | .error .tooManyLinks => pure none
          | .error e => throw e
          | .ok n => pure (some n)
        entryOf fs base path path (n.any fs.isDirectory)
      | _ => do
        let _ ← fs.locate base path true
        entryOf fs base path path true
    match e with
    | .ok e => pure (some e)
    | .error e =>
      complain 2 ("cannot access ".toList ++ quotedName path ++ ": ".toList ++ e.wording)
      pure none
  let l := s.sort (found.filterMap fun e => e)
  let isShown (e : Entry) : Bool := s.isImmediate || !e.node.isDirectory
  let files := l.filter isShown
  let directories := (l.filter fun e => !isShown e).map Entry.name
  let now ← look fun fs _ => fs.now
  say (s.arrange now files)
  if !files.isEmpty && !directories.isEmpty then say ['\n']
  let isNamed := operands.length > 1 || !files.isEmpty
  listDirectories s isNamed mostDirectories true directories

/-! ### Options -/

/-- The options of listings. -/
def switches : List Switch :=
  [flag 'a' "all", flag 'b' "escape", flag 'd' "directory", flag 'D' "dired",
    named "full-time" .nothing, named "group-directories-first" .nothing,
    flag 'h' "human-readable", flag 'i' "inode", flag 'k' "kibibytes",
    flag 'n' "numeric-uid-gid", flag 'G' "no-group", flag 'q' "hide-control-chars",
    flag 'r' "reverse", flag 's' "size", valued 'w' "width", flag 'A' "almost-all",
    flag 'B' "ignore-backups", ⟨some 'F', "classify", .nothing⟩, named "file-type" .nothing,
    named "si" .nothing, flag 'H' "dereference-command-line", named "hide" .value,
    valued 'I' "ignore", named "indicator-style" .value, flag 'L' "dereference",
    flag 'N' "literal", flag 'Q' "quote-name", named "quoting-style" .value,
    flag 'R' "recursive", named "format" .value, named "show-control-chars" .nothing,
    named "sort" .value, valued 'T' "tabsize", named "time" .value, named "time-style" .value,
    named "zero" .nothing, named "color" .maybe, named "block-size" .value, flag 'Z' "context",
    named "author" .nothing] ++ flags "cCfglmopStuUvxX1"

/-- The formats of times with dates in full. -/
def fullTimes : Text × Text :=
  let t := "%Y-%m-%d %H:%M:%S.%N %z".toList
  (t, t)

/-- The formats of times that a text stands for. -/
def timesOf (t : Text) : Work (Text × Text) := do
  match t with
  | '+' :: format =>
    let first := format.takeWhile (· != '\n')
    match format.drop first.length with
    | [] => pure (first, first)
    | _ :: second => pure (first, second)
  | t =>
    match String.ofList (("posix-".toList.isPrefixOf? t).getD t) with
    | "full-iso" => pure fullTimes
    | "long-iso" => pure ("%Y-%m-%d %H:%M".toList, "%Y-%m-%d %H:%M".toList)
    | "iso" => pure ("%Y-%m-%d ".toList, "%m-%d %H:%M".toList)
    | "locale" => pure Style.usual.times
    | _ =>
      misuse ("invalid argument ".toList ++ quoted t ++ " for 'time style'\n".toList ++
        "Valid arguments are:\n  - [posix-]full-iso\n  - [posix-]long-iso\n".toList ++
        "  - [posix-]iso\n  - [posix-]locale\n".toList ++
        "  - +FORMAT (e.g., +%H:%M) for a 'date'-style format".toList)

/-- A number among the options. -/
def numberOf (what : String) (t : Text) : Work Nat := do
  match Text.toNat? t with
  | some n => pure n
  | none => giveUp ("invalid ".toList ++ what.toList ++ ": ".toList ++ quoted t)

/-- A style with another option. -/
def Style.with (s : Style) (key : String) (t : Text) : Work Style := do
  let picked {α : Type} (meanings : List (List String × α)) : Work α :=
    pick 1 ("'--".toList ++ key.toList ++ "'".toList) meanings t
  match key with
  | "all" => pure { s with omits := .nothing }
  | "almost-all" => pure { s with omits := .dots }
  | "author" => pure { s with showsAuthor := true }
  | "escape" => pure { s with quoting := .escape }
  | "block-size" =>
    match measure? t with
    | some m => pure { s with sizes := m, blocks := m }
    | none => giveUp ("invalid --block-size argument ".toList ++ quoted t)
  | "ignore-backups" => pure { s with ignored := "*~".toList :: ".*~".toList :: s.ignored }
  | "c" | "u" => pure { s with otherTime := true }
  | "C" => pure { s with layout := .columns }
  | "directory" => pure { s with isImmediate := true }
  | "f" => pure { s with omits := .nothing, order := some .entries }
  | "classify" => pure { s with marks := .programs }
  | "file-type" => pure { s with marks := .kinds }
  | "format" =>
    let layout ← picked
      [(["verbose", "long"], Layout.long), (["commas"], .commas),
        (["horizontal", "across"], .rows), (["vertical"], .columns), (["single-column"], .single)]
    pure { s with layout := layout }
  | "full-time" => pure { s with layout := .long, times := fullTimes }
  | "g" => pure { s with layout := .long, showsOwner := false }
  | "group-directories-first" => pure { s with directoriesFirst := true }
  | "no-group" => pure { s with showsGroup := false }
  | "human-readable" => pure { s with sizes := .readable 1024, blocks := .readable 1024 }
  | "si" => pure { s with sizes := .readable 1000, blocks := .readable 1000 }
  | "dereference-command-line" => pure { s with follows := .arguments }
  | "hide" => pure { s with hidden := t :: s.hidden }
  | "indicator-style" =>
    let marks ← picked
      [(["none"], Marks.none), (["slash"], .directories), (["file-type"], .kinds),
        (["classify"], .programs)]
    pure { s with marks := marks }
  | "inode" => pure { s with showsInode := true }
  | "ignore" => pure { s with ignored := t :: s.ignored }
  | "kibibytes" => pure { s with blocks := .units 1024 [] }
  | "l" => pure { s with layout := .long }
  | "dereference" => pure { s with follows := .always }
  | "m" => pure { s with layout := .commas }
  | "numeric-uid-gid" => pure { s with layout := .long, isNumeric := true }
  | "literal" => pure { s with quoting := .literal }
  | "o" => pure { s with layout := .long, showsGroup := false }
  | "p" => pure { s with marks := .directories }
  | "hide-control-chars" => pure { s with masksControls := true }
  | "show-control-chars" => pure { s with masksControls := false }
  | "quote-name" => pure { s with quoting := .doubled }
  | "quoting-style" =>
    let quoting ← picked
      [(["literal"], Quoting.literal), (["shell"], .shell), (["shell-always"], .shellAlways),
        (["shell-escape"], .shell), (["shell-escape-always"], .shellAlways), (["c"], .doubled),
        (["c-maybe"], .literal), (["escape"], .escape), (["locale"], .shellAlways),
        (["clocale"], .doubled)]
    pure { s with quoting := quoting }
  | "reverse" => pure { s with reverses := true }
  | "recursive" => pure { s with descends := true }
  | "size" => pure { s with showsBlocks := true }
  | "S" => pure { s with order := some .size }
  | "sort" =>
    let order ← picked
      [(["none"], Order.entries), (["time"], .time), (["size"], .size),
        (["extension"], .extension), (["version"], .version), (["width"], .width)]
    pure { s with order := some order }
  | "time" =>
    picked
      [(["atime", "access", "use"], ()), (["ctime", "status"], ()),
        (["mtime", "modification"], ()), (["birth", "creation"], ())]
    pure { s with otherTime := true }
  | "time-style" => do pure { s with times := ← timesOf t }
  | "t" => pure { s with order := some .time }
  | "tabsize" => do pure { s with tab := ← numberOf "tab size" t }
  | "U" => pure { s with order := some .entries }
  | "v" => pure { s with order := some .version }
  | "width" => do pure { s with width := ← numberOf "line width" t }
  | "x" => pure { s with layout := .rows }
  | "X" => pure { s with order := some .extension }
  | "1" => pure { s with layout := if s.layout == .long then .long else .single }
  | "zero" =>
    pure { s with
      ending := '\x00', quoting := .literal, masksControls := false
      layout := if s.layout == .long then .long else .single }
  | "color" =>
    if t.isEmpty then pure s
    else
      picked
        [(["always", "yes", "force"], ()), (["never", "no", "none"], ()),
          (["auto", "tty", "if-tty"], ())]
      pure s
  | _ => pure s

/-- The style that options ask for. -/
def styleOf : Style → List (String × Text) → Work Style
  | s, [] => pure s
  | s, (key, t) :: rest => do styleOf (← s.with key t) rest

end Listing

/-- Lists directories. -/
def ls : Program :=
  toolOf (mannerOf 2) Listing.switches fun g => do
    Listing.list (← Listing.styleOf Listing.Style.usual g.options) g.operands

end Console.Host.Tool
