import Console.Host.Regex.Matcher
import Console.Host.Pattern
import Console.Host.Tool.Cut

/-! Searching of lines that match patterns: which lines are selected, and how they are shown with
    the lines around them. -/

namespace Console.Host.Tool

open Work

namespace Search

/-- What is shown of files. -/
inductive Display where
  | lines
  /-- Only the parts of lines that match. -/
  | parts
  | counts
  | names
  | namesWithout
  | nothing
  deriving DecidableEq, Repr

/-- How files are searched. -/
structure Plan where
  matchers : List Regex.Matcher
  /-- Whether the only pattern is empty. -/
  matchesAll : Bool
  inverts : Bool
  display : Display
  withNames : Bool
  withNumbers : Bool
  withOffsets : Bool
  /-- Whether a zero stands behind names. -/
  zeroNames : Bool
  colors : Bool
  /-- Whether lines that do not stand together are separated. -/
  separates : Bool
  before : Nat
  after : Nat
  most : Option Nat
  ending : Char
  /-- Whether files that are not text are treated as such. -/
  asText : Bool
  skipsBinary : Bool
  silent : Bool

/-- The first match of a pattern in a text, the longest if several begin there. -/
def Plan.find? (p : Plan) (before : Option Char) (t : Text) : Option (Nat × Nat) :=
  p.matchers.foldl (fun best m =>
    match m.find? before t, best with
    | none, best => best
    | some f, none => some (f.start, f.stop)
    | some f, some (start, stop) =>
      if f.start < start || f.start == start && f.stop > stop then some (f.start, f.stop) else best)
    none

/-- The matches in a line that are not empty, with their offsets. -/
def Plan.parts (p : Plan) : Nat → Nat → Option Char → Text → List (Nat × Text)
  | 0, _, _, _ => []
  | fuel + 1, offset, before, t =>
    match p.find? before t with
    | none => []
    | some (start, stop) =>
      let last (n : Nat) : Option Char := if n = 0 then before else (t.drop (n - 1)).head?
      if stop = start then
        if start ≥ t.length then []
        else p.parts fuel (offset + start + 1) (last (start + 1)) (t.drop (start + 1))
      else
        (offset + start, Regex.slice t start stop) ::
          p.parts fuel (offset + stop) (last stop) (t.drop stop)

/-! ### How lines are shown -/

/-- A text in a color. -/
def Plan.colored (p : Plan) (color : String) (t : Text) : Text :=
  if p.colors && !t.isEmpty then
    "\x1b[".toList ++ color.toList ++ "m\x1b[K".toList ++ t ++ "\x1b[m\x1b[K".toList
  else t

/-- What stands in front of a line. -/
def Plan.lead (p : Plan) (file : Text) (number offset : Nat) (sign : Char) : Text :=
  let sign := p.colored "36" [sign]
  let name : Text :=
    if p.withNames then p.colored "35" file ++ (if p.zeroNames then ['\x00'] else sign) else []
  let number := if p.withNumbers then p.colored "32" (Text.ofNat number) ++ sign else []
  let offset := if p.withOffsets then p.colored "32" (Text.ofNat offset) ++ sign else []
  name ++ number ++ offset

/-- A line in which the matches are colored. -/
def Plan.highlighted (p : Plan) (line : Text) : Text :=
  if !p.colors || p.inverts then line
  else
    let (t, n) := (p.parts (line.length + 1) 0 none line).foldl
      (fun ((shown, n) : Text × Nat) (offset, part) =>
        (shown ++ Regex.slice line n offset ++ p.colored "01;31" part, offset + part.length))
      (([], 0) : Text × Nat)
    t ++ line.drop n

/-! ### Scanning -/

/-- A scan of a file: where it is, how many lines have been selected, and what may still be shown
    around them. -/
structure Scan where
  number : Nat
  offset : Nat
  selected : Nat
  /-- How many lines are still to be shown behind a selected one. -/
  after : Nat
  /-- The lines that are shown if one behind them is selected, the last one first. -/
  before : List (Nat × Nat × Text)
  /-- The number of the last line that has been shown; zero if it was in an earlier file. -/
  shown : Option Nat
  isBinary : Bool
  /-- Whether a line has been selected that cannot be shown. -/
  hasHidden : Bool

/-- Whether enough is known about a file. -/
def Plan.isOver (p : Plan) (s : Scan) : Bool :=
  let isFull := p.most.any fun n => s.selected ≥ n
  s.hasHidden || isFull && s.after == 0 ||
    match p.display with
    | .names | .namesWithout | .nothing => s.selected > 0
    | _ => false

/-- A selected line as it is shown. -/
def Plan.shownLine (p : Plan) (file : Text) (s : Scan) (line : Text) : Text :=
  match p.display with
  | .lines => p.lead file s.number s.offset ':' ++ p.highlighted line ++ [p.ending]
  | .parts =>
    if p.inverts then []
    else
      (p.parts (line.length + 1) 0 none line).flatMap fun (offset, part) =>
        p.lead file s.number (s.offset + offset) ':' ++ p.colored "01;31" part ++ [p.ending]
  | _ => []

/-- Scans a line. -/
def Plan.line (p : Plan) (file : Text) (s : Scan) (line : Text) : Scan × Text :=
  let s := { s with number := s.number + 1 }
  let next (s : Scan) : Scan := { s with offset := s.offset + line.length + 1 }
  let isFull := p.most.any fun n => s.selected ≥ n
  let isSelected := !isFull && (p.find? none line).isSome != p.inverts
  let showsContext := p.display == .lines
  if isSelected then
    let s := { s with selected := s.selected + 1 }
    if s.isBinary && (p.display == .lines || p.display == .parts) then
      (next { s with hasHidden := true }, [])
    else if !showsContext then (next s, p.shownLine file s line)
    else
      let before := s.before.reverse
      let first := (before.head?.map Prod.fst).getD s.number
      let gap : Text :=
        if p.separates && s.shown.any fun n => n = 0 || n + 1 < first then
          p.colored "36" "--".toList ++ ['\n']
        else []
      let context := before.flatMap fun (n, offset, t) =>
        p.lead file n offset '-' ++ t ++ [p.ending]
      (next { s with before := [], after := p.after, shown := some s.number },
        gap ++ context ++ p.shownLine file s line)
  else if showsContext && s.after > 0 then
    (next { s with after := s.after - 1, shown := some s.number },
      p.lead file s.number s.offset '-' ++ line ++ [p.ending])
  else
    (next { s with before := ((s.number, s.offset, line) :: s.before).take p.before }, [])

/-- A scan as a stream. A zero among the octets says that a file is no text, and ends lines then. -/
def Plan.stream (p : Plan) (file : Text) : Stream (Scan × List Text) :=
  let lines : Lines Scan := ⟨p.ending, fun s line _ => p.line file s line, p.isOver⟩
  { take := fun (s, kept) piece =>
      let isBinary := s.isBinary || !p.asText && p.ending == '\n' && piece.elem '\x00'
      let piece := if isBinary then piece.map fun c => if c = '\x00' then '\n' else c else piece
      lines.stream.take ({ s with isBinary := isBinary }, kept) piece
    isOver := fun (s, _) => p.isOver s }

/-- The name of a file in what is shown. -/
def nameOf (label : Text) (file : Text) : Text := if file = ['-'] then label else file

/-- Whether a descriptor leads to the file that is written. -/
def isOutput (w : Kernel) (descriptor : Nat) : Bool :=
  match (w.opening? descriptor).map Opening.target, (w.opening? 1).map Opening.target with
  | some (.node n), some (.node m) => n == m && w.files.isFile n
  | _, _ => false

/-- Reports trouble with a file. -/
def trouble (p : Plan) (t : Text) : Work Unit := do
  if p.silent then atLeast 2 else complain 2 t

/-- Shows what is known about a file in the end, and answers the last line that was shown. -/
def finish (p : Plan) (name : Text) (s : Scan) : Work Unit := do
  match p.display with
  | .counts =>
    let lead : Text :=
      if p.withNames then
        p.colored "35" name ++ (if p.zeroNames then ['\x00'] else p.colored "36" [':'])
      else []
    say (lead ++ Text.ofNat s.selected ++ ['\n'])
  | .names | .namesWithout =>
    if (s.selected > 0) == (p.display == .names) then
      say (p.colored "35" name ++ [if p.zeroNames then '\x00' else '\n'])
  | _ =>
    if s.hasHidden then
      flush
      mutter (name ++ ": binary file matches".toList)

/-- Searches an opened file. Answers whether a line was selected and the state of what was shown. -/
def searchOpened (p : Plan) (file name : Text) (descriptor : Nat) (shown : Option Nat) :
    Work (Bool × Option Nat) := do
  let copies := p.display == .lines && p.most.all (· > 1)
  if copies && (← step (Prog.see fun w => isOutput w descriptor)) then
    trouble p (shownName true file ++ ": input file is also the output".toList)
    pure (false, shown)
  else
    let start : Scan := ⟨0, 0, 0, 0, [], shown, false, false⟩
    match ← feed (p.stream name) descriptor (start, []) with
    | .error e =>
      trouble p (file ++ ": ".toList ++ e.wording)
      pure (false, shown)
    | .ok (s, kept) =>
      let rest := kept.reverse.flatten
      let s ←
        if rest.isEmpty || p.isOver s then pure s
        else do
          let (s, t) := p.line name s rest
          say t
          pure s
      if s.isBinary && p.skipsBinary then pure (false, shown)
      else
        finish p name s
        pure (s.selected > 0, s.shown.map fun _ => 0)

/-- A file to be searched, and whether it was named by an operand. -/
structure Target where
  path : Text
  isOperand : Bool

/-- The files below a directory, which are to be searched. -/
def below (files : Files) (wanted : Text → Bool → Bool) : Nat → Nat → Text → List Text
  | 0, _, _ => []
  | fuel + 1, n, lead =>
    match files.directory? n with
    | none => []
    | some (_, entries) => entries.flatMap fun (name, m) =>
      let path := if lead.isEmpty then name else if lead.getLast? = some '/' then lead ++ name
        else lead ++ '/' :: name
      if files.isDirectory m then
        if wanted name true then below files wanted fuel m path else []
      else if files.isFile m && wanted name false then [path]
      else []

/-- The options. -/
def switches : List Switch :=
  [flag 'E' "extended-regexp", flag 'F' "fixed-strings", flag 'G' "basic-regexp",
    flag 'P' "perl-regexp", valued 'e' "regexp", valued 'f' "file", flag 'i' "ignore-case",
    flag 'y' "", named "no-ignore-case" .nothing, flag 'w' "word-regexp", flag 'x' "line-regexp",
    flag 'z' "null-data", flag 's' "no-messages", flag 'v' "invert-match", valued 'm' "max-count",
    flag 'b' "byte-offset", flag 'n' "line-number", named "line-buffered" .nothing,
    flag 'H' "with-filename", flag 'h' "no-filename", named "label" .value,
    flag 'o' "only-matching", flag 'q' "quiet", named "silent" .nothing,
    named "binary-files" .value, flag 'a' "text", flag 'I' "", valued 'd' "directories",
    valued 'D' "devices", flag 'r' "recursive", flag 'R' "dereference-recursive",
    named "include" .value, named "exclude" .value, named "exclude-dir" .value,
    named "exclude-from" .value, flag 'L' "files-without-match", flag 'l' "files-with-matches",
    flag 'c' "count", flag 'T' "initial-tab", flag 'Z' "null", valued 'B' "before-context",
    valued 'A' "after-context", valued 'C' "context", named "color" .maybe, named "colour" .maybe,
    flag 'U' "binary"] ++ flags "0123456789"

/-- Ends the tool with the lines on its use. -/
def usage {α : Type} (message : Option Text) : Work α := do
  match message with
  | some t => mutter t
  | none => pure ()
  let name ← name
  step (Prog.put 2 ("Usage: ".toList ++ name ++ " [OPTION]... PATTERNS [FILE]...\n".toList ++
    helpHint name))
  step (Prog.exit 2)

/-- The patterns that are given, each a line. -/
def patternsOf (g : Given) : Work (List Text × List Text) := do
  let given := g.options.filter fun (k, _) => k == "regexp" || k == "file"
  if given.isEmpty then
    match g.operands with
    | [] => usage none
    | t :: rest => pure (Text.splitOn '\n' t, rest)
  else
    let lists ← given.mapM fun (k, v) => do
      if k == "regexp" then pure (Text.splitOn '\n' v)
      else
        match ← contents v with
        | .error e => giveUp (faultOf v e)
        | .ok t => pure (linesOf t)
    pure (lists.flatten, g.operands)

/-- Whether a pattern writes the name of a class with too few brackets. -/
def isBareClass (t : Text) : Bool :=
  match t with
  | '[' :: ':' :: rest =>
    let inside := rest.takeWhile (· != ']')
    inside.getLast? == some ':' && inside.length > 1 && rest.length > inside.length
  | _ => false

/-- What an expression in the extended form is warned of: a sign of repetition at its start. -/
def startWarning? : Nat → Bool → Text → Option String
  | 0, _, _ => none
  | _ + 1, _, [] => none
  | fuel + 1, _, '\\' :: rest => startWarning? fuel false (rest.drop 1)
  | fuel + 1, _, '[' :: rest => startWarning? fuel false ((rest.drop 1).dropWhile (· != ']'))
  | fuel + 1, atStart, c :: rest =>
    let sign : Option String :=
      match c with
      | '*' => some "*"
      | '+' => some "+"
      | '?' => some "?"
      | '\x7b' => if rest.head?.any Char.isDigit then some "\x7b...\x7d" else none
      | _ => none
    match atStart, sign with
    | true, some sign => some ("warning: " ++ sign ++ " at start of expression")
    | _, _ => startWarning? fuel (c == '(' || c == '|' || c == '^') rest

/-- The matcher of a pattern. -/
def matcherOf (kind : String) (ignoresCase words lines : Bool) (t : Text) :
    Work Regex.Matcher := do
  let dialect : Regex.Dialect := ⟨kind != "basic-regexp", ignoresCase, false, false⟩
  let parsed : Except Regex.Fault (Regex × Nat) :=
    if kind = "fixed-strings" then
      .ok (t.foldl (fun r c => .seq r (Regex.ofChar dialect c)) .empty, 0)
    else Regex.parse dialect t
  if kind != "fixed-strings" && isBareClass t then
    giveUp "character class syntax is [[:space:]], not [:space:]".toList
  match parsed with
  | .error e => giveUp e.message.toList
  | .ok (r, groups) =>
    if kind = "extended-regexp" then
      match startWarning? (t.length + 1) true t with
      | some w => mutter w.toList
      | none => pure ()
    let between (a b : Anchor) (r : Regex) : Regex := .seq (.at_ a) (.seq r (.at_ b))
    let r := if lines then between .textStart .textEnd r
      else if words then between .behindNoWord .beforeNoWord r else r
    pure (Regex.matcher r groups false)

/-- A count of lines around selected ones. -/
def contextCount (t : Text) : Work Nat := do
  match Text.toNat? t with
  | some n => pure n
  | none => giveUp (t ++ ": invalid context length argument".toList)

/-- What is shown, as the options say. -/
def displayOf (g : Given) : Display :=
  if g.has "quiet" || g.has "silent" then .nothing
  else
    match g.lastOf? ["files-with-matches", "files-without-match"] with
    | some "files-with-matches" => .names
    | some _ => .namesWithout
    | none => if g.has "count" then .counts else if g.has "only-matching" then .parts else .lines

/-- The plan that options ask for, and the files. -/
def planOf (kind : Option String) (g : Given) : Work (Plan × List Text) := do
  let kinds := ["extended-regexp", "fixed-strings", "basic-regexp", "perl-regexp"]
  let asked := (kinds.filter fun k => g.has k || kind == some k)
  if asked.length > 1 then giveUp "conflicting matchers specified".toList
  let kind := (asked.head?).getD "basic-regexp"
  let most ← match g.last? "max-count" with
    | none => pure none
    | some t =>
      match Numeral.integer? 10 t with
      | some (n, []) => pure (if n < 0 then none else some n.toNat)
      | _ => giveUp "invalid max count".toList
  let context := g.last? "context"
  let digits := (g.options.filter fun (k, _) => k.length == 1 && k.all Char.isDigit).map Prod.fst
  let context :=
    if digits.isEmpty then context else some (digits.flatMap String.toList)
  let common ← match context with
    | none => pure none
    | some t => do pure (some (← contextCount t))
  let around (key : String) : Work Nat := do
    match g.last? key with
    | some t => contextCount t
    | none => pure (common.getD 0)
  let before ← around "before-context"
  let after ← around "after-context"
  let (patterns, files) ← patternsOf g
  let ignoresCase := g.lastOf? ["ignore-case", "y", "no-ignore-case"]
  let matchers ← patterns.mapM fun t =>
    matcherOf kind (ignoresCase.any fun k => k != "no-ignore-case") (g.has "word-regexp")
      (g.has "line-regexp") t
  let color := (g.options.filter fun (k, _) => k == "color" || k == "colour").getLast?
  let binary := (g.last? "binary-files").getD []
  pure ({
    matchers := matchers
    matchesAll := patterns == [[]] && !g.has "word-regexp" && !g.has "line-regexp"
    inverts := g.has "invert-match"
    display := displayOf g
    withNames := false
    withNumbers := g.has "line-number"
    withOffsets := g.has "byte-offset"
    zeroNames := g.has "null"
    colors := color.any fun (_, v) =>
      v == "always".toList || v == "yes".toList || v == "force".toList
    separates := context.isSome || g.has "before-context" || g.has "after-context"
    before := before
    after := after
    most := most
    ending := if g.has "null-data" then '\x00' else '\n'
    asText := g.has "text" || binary == "text".toList
    skipsBinary := g.has "I" || binary == "without-match".toList
    silent := g.has "no-messages" }, files)

/-- Searches files one after the other. Answers whether a line was selected. -/
def searchFiles (p : Plan) (label : Text) (skipsDirectories : Bool) :
    Option Nat → Bool → List Text → Work Bool
  | _, found, [] => pure found
  | shown, found, file :: rest => do
    if p.display == .nothing && found then pure true
    else
      match ← openInput file with
      | .error e =>
        trouble p (file ++ ": ".toList ++ e.wording)
        searchFiles p label skipsDirectories shown found rest
      | .ok d =>
        let isDirectory ← step (Prog.see fun w =>
          match (w.opening? d).map Opening.target with
          | some (.node n) => w.files.isDirectory n
          | _ => false)
        let (hit, shown) ←
          if isDirectory then do
            if !skipsDirectories then trouble p (file ++ ": Is a directory".toList)
            pure (false, shown)
          else searchOpened p file (nameOf label file) d shown
        closeInput d
        searchFiles p label skipsDirectories shown (found || hit) rest

/-- The arguments with directories replaced by the files below them. -/
def spread (g : Given) (files : List Text) : Work (List Text) := do
  let matchesAny (key : String) (name : Text) : Bool :=
    (g.all key).any fun t => (Pattern.ofEscaped t).matchesAll name
  let wanted (name : Text) (isDirectory : Bool) : Bool :=
    if isDirectory then !matchesAny "exclude-dir" name
    else !matchesAny "exclude" name && (!g.has "include" || matchesAny "include" name)
  let lists ← files.mapM fun file =>
    step (Prog.look fun fs base =>
      let path := if file.isEmpty then ['.'] else file
      match fs.find? base path with
      | some n =>
        if file != ['-'] && fs.isDirectory n then below fs wanted fs.nodes.size n file else [file]
      | none => [file])
  pure lists.flatten

/-- Searches files, with the kind of patterns if no option says it. -/
def program (kind : Option String) : Program :=
  tool (mannerOf 2) fun arguments => do
    match (Grammar.usual switches).read arguments with
    | .error e => usage (some e)
    | .ok g =>
      let (p, operands) ← planOf kind g
      let isDeep := g.has "recursive" || g.has "dereference-recursive" ||
        g.last? "directories" == some "recurse".toList
      let operands := if operands.isEmpty then (if isDeep then [[]] else [['-']]) else operands
      let hasDirectory ← step (Prog.look fun fs base =>
        operands.any fun t => (fs.find? base (if t.isEmpty then ['.'] else t)).any fs.isDirectory)
      let files ← if isDeep then spread g operands else pure operands
      let files :=
        if isDeep then files
        else
          let isExcluded (t : Text) : Bool :=
            (g.all "exclude").any fun e => (Pattern.ofEscaped e).matchesAll t
          files.filter fun t => !isExcluded t
      let withNames := match g.lastOf? ["with-filename", "no-filename"] with
        | some "with-filename" => true
        | some _ => false
        | none => operands.length > 1 || isDeep && hasDirectory
      let p := { p with withNames := withNames }
      let label := (g.last? "label").getD "(standard input)".toList
      let isHopeless := p.most == some 0 || p.matchesAll && p.inverts
      let found ←
        if isHopeless && p.display != .namesWithout then pure false
        else searchFiles p label (g.last? "directories" == some "skip".toList) none false files
      let desk ← get
      flush
      let status := if p.display == .nothing && found then 0
        else if desk.status > 0 then desk.status else if found then 0 else 1
      stop status

end Search

/-- Searches lines. -/
def grep : Program := Search.program none

/-- Searches lines by patterns in the extended form. -/
def egrep : Program := fun start call =>
  Search.program (some "extended-regexp") start { call with name := "grep".toList }

/-- Searches lines by plain texts. -/
def fgrep : Program := fun start call =>
  Search.program (some "fixed-strings") start { call with name := "grep".toList }

end Console.Host.Tool
