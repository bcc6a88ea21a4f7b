import Console.Host.Regex.Matcher
import Console.Host.Tool.Work

/-! Tools that show files: whole, their beginnings and ends, with numbers at the lines, or
    backwards. -/

namespace Console.Host.Tool

open Work

/-! ### Whole files -/

/-- What is shown besides the characters of a file. -/
structure Marks where
  numbers : Bool
  /-- Whether only lines that are not empty get numbers. -/
  numbersFull : Bool
  /-- Whether only the first of several empty lines is shown. -/
  squeezes : Bool
  ends : Bool
  tabs : Bool
  controls : Bool

/-- Where the showing of a file is: at the start of a line, behind so many empty lines, and the
    number of the last line. -/
structure Showing where
  atStart : Bool
  empties : Nat
  number : Nat

/-- A character of which the unprintable ones are spelled. -/
def spelled (c : Char) : Text :=
  let low (n : Nat) : Text :=
    if n < 32 then ['^', Char.ofNat (n + 64)] else if n = 127 then ['^', '?'] else [Char.ofNat n]
  if c.toNat < 128 then low c.toNat else 'M' :: '-' :: low (c.toNat - 128)

/-- A number in front of a line. -/
def numbered (width : Nat) (n : Nat) : Text := (Text.ofNat n).leftpad width ' '

/-- Shows text. The second list is what is shown, the last piece first. -/
def Marks.show (m : Marks) : Showing → List Text → Text → Showing × List Text
  | st, l, [] => (st, l)
  | st, l, c :: rest =>
    let isEmpty := st.atStart && c == '\n'
    let gets := st.atStart && (m.numbersFull && !isEmpty || m.numbers && !m.numbersFull)
    let isExtra := isEmpty && m.squeezes && st.empties ≥ 1
    if isExtra then m.show st l rest
    else
      let lead : Text := if gets then numbered 6 (st.number + 1) ++ ['\t'] else []
      let shown : Text :=
        if c = '\n' then if m.ends then ['$', '\n'] else ['\n']
        else if c = '\t' then if m.tabs then ['^', 'I'] else ['\t']
        else if m.controls then spelled c
        else if c = '\r' && m.ends && rest.head? == some '\n' then ['^', 'M']
        else [c]
      let st : Showing :=
        ⟨c == '\n', if isEmpty then st.empties + 1 else 0,
          if gets then st.number + 1 else st.number⟩
      m.show st ((lead ++ shown) :: l) rest

/-- The marks that options ask for. -/
def Marks.ofGiven (g : Given) : Marks :=
  let whole := g.has "show-all"
  ⟨g.has "number", g.has "number-nonblank", g.has "squeeze-blank",
    whole || g.has "e" || g.has "show-ends", whole || g.has "t" || g.has "show-tabs",
    whole || g.has "e" || g.has "t" || g.has "show-nonprinting"⟩

/-- Whether marks leave files as they are. -/
def Marks.isNone (m : Marks) : Bool :=
  !(m.numbers || m.numbersFull || m.squeezes || m.ends || m.tabs || m.controls)

/-- Files with marks as a stream. -/
def Marks.stream (m : Marks) : Stream Showing where
  take := fun st piece =>
    if m.isNone then (st, piece, [])
    else
      let (st, l) := m.show st [] piece
      (st, l.reverse.flatten, [])
  isOver := fun _ => false

/-- Whether a file to be shown is the one that is written, and would grow. -/
def showsItself (w : Kernel) (descriptor : Nat) : Bool :=
  match w.opening? descriptor, w.opening? 1 with
  | some ⟨.node n, offset, _, _, _⟩, some ⟨.node m, other, _, _, appends⟩ =>
    n == m && w.files.isFile n && offset < (if appends then w.files.sizeOf m else other)
  | _, _ => false

/-- Shows files one after the other. -/
def catFiles (m : Marks) : Showing → List Text → Work Unit
  | _, [] => pure ()
  | st, file :: rest => do
    let st ← match ← openInput file with
      | .error e => do
        complain 1 (faultOf file e.wording)
        pure st
      | .ok d =>
        if ← step (Prog.see fun w => showsItself w d) then
          complain 1 (shown file ++ ": input file is output file".toList)
          closeInput d
          pure st
        else
          let r ← feed m.stream d st
          closeInput d
          match r with
          | .ok st => pure st
          | .error e =>
            complain 1 (faultOf file e.wording)
            pure st
    catFiles m st rest

/-- Whether a descriptor leads somewhere. -/
def isOpen (descriptor : Nat) : Work Bool :=
  step (Prog.see fun w => (w.opening? descriptor).isSome)

/-- Shows files with marks. -/
def cat : Program :=
  toolOf usualManner
    [flag 'A' "show-all", flag 'b' "number-nonblank", flag 'e' "", flag 'E' "show-ends",
      flag 'n' "number", flag 's' "squeeze-blank", flag 't' "", flag 'T' "show-tabs", flag 'u' "",
      flag 'v' "show-nonprinting"]
    fun g => do
      if !(← isOpen 1) then giveUp "standard output: Bad file descriptor".toList
      let files := filesOf g
      catFiles (Marks.ofGiven g) ⟨true, 0, 0⟩ files
      if files.contains ['-'] && !(← isOpen 0) then
        giveUp "closing standard input: Bad file descriptor".toList

/-- Copies its input to its output and to files. -/
def tee : Program :=
  toolOf usualManner
    [flag 'a' "append", flag 'i' "ignore-interrupts", flag 'p' "", named "output-error" .maybe]
    fun g => do
      let wanted : Wanted := if g.has "append" then .appending else .writing
      let descriptors ← g.operands.filterMapM fun file => do
        match ← step (Prog.open_ 3 file wanted Prog.openMode) with
        | .ok d => pure (some d)
        | .error e =>
          complain 1 (faultOf file e.wording)
          pure none
      let rec copy : Nat → Work Unit
        | 0 => pure ()
        | fuel + 1 => do
          match ← step (Prog.readPiece 0) with
          | .error e => complain 1 ("read error: ".toList ++ e.wording)
          | .ok [] => pure ()
          | .ok t =>
            say t
            flush
            descriptors.forM fun d => step (Prog.put d t)
            copy fuel
      copy Prog.manyPieces

/-- Writes a line again and again. -/
def yes : Program :=
  tool ⟨1, "standard output"⟩ fun arguments => do
    let words := match arguments with
      | ['-', '-'] :: rest => rest
      | l => l
    let line := Text.join [' '] (if words.isEmpty then [['y']] else words) ++ ['\n']
    let block := (List.replicate (4096 / line.length + 1) line).flatten
    let rec repeated : Nat → Work Unit
      | 0 => pure ()
      | fuel + 1 => do
        say block
        repeated fuel
    repeated Prog.manyPieces

/-! ### Beginnings and ends -/

/-- How much of a file is shown. -/
structure Part where
  /-- Whether it is counted in lines, and otherwise in octets. -/
  inLines : Bool
  count : Nat
  /-- Whether the count is of what is left out. -/
  leavesOut : Bool
  ending : Char

/-- The start of a text with so many lines, and the rest. -/
def splitLines (ending : Char) : Nat → Text → Text × Text
  | 0, t => ([], t)
  | n + 1, t =>
    let line := t.takeWhile (· != ending)
    match t.drop line.length with
    | [] => (line, [])
    | c :: rest =>
      let (front, rest) := splitLines ending n rest
      (line ++ c :: front, rest)

/-- The number of lines of a text. The last one needs no end. -/
def countLines (ending : Char) (t : Text) : Nat :=
  (t.filter (· == ending)).length +
    (match t.getLast? with
      | none => 0
      | some c => if c = ending then 0 else 1)

/-- The beginning of so many lines or octets as a stream, which counts what is still wanted. -/
def Part.front (p : Part) : Stream Nat where
  take := fun n piece =>
    if p.inLines then
      let (front, rest) := splitLines p.ending n piece
      (n - (front.filter (· == p.ending)).length, front, rest)
    else (n - piece.length, piece.take n, piece.drop n)
  isOver := fun n => n == 0

/-- What stands behind so many lines or octets as a stream. -/
def Part.back (p : Part) : Stream Nat where
  take := fun n piece =>
    if n = 0 then (0, piece, [])
    else if p.inLines then
      let (front, rest) := splitLines p.ending n piece
      (n - (front.filter (· == p.ending)).length, rest, [])
    else (n - piece.length, piece.drop n, [])
  isOver := fun _ => false

/-- A text without so many lines or octets at its end. -/
def Part.withoutEnd (p : Part) (t : Text) : Text :=
  if p.inLines then (splitLines p.ending (countLines p.ending t - p.count) t).1
  else t.take (t.length - p.count)

/-- So many lines or octets at the end of a text. -/
def Part.end_ (p : Part) (t : Text) : Text :=
  if p.inLines then (splitLines p.ending (countLines p.ending t - p.count) t).2
  else t.drop (t.length - p.count)

/-- How a file is called above what is shown of it. -/
def titleOf (file : Text) : Text := if file = ['-'] then "standard input".toList else file

/-- Shows parts of files, each by `showing`, with titles if they are asked for. -/
def showParts (titles : Bool) (showing : Nat → Work (Except Obstacle Unit)) :
    Bool → List Text → Work Unit
  | _, [] => pure ()
  | first, file :: rest => do
    match ← openInput file with
    | .error e =>
      complain 1 ("cannot open ".toList ++ inQuotes (titleOf file) ++ " for reading: ".toList ++
        e.wording)
      showParts titles showing first rest
    | .ok d =>
      if titles then
        say ((if first then [] else ['\n']) ++ "==> ".toList ++ titleOf file ++ " <==\n".toList)
      match ← showing d with
      | .ok () => pure ()
      | .error e =>
        complain 1 ("error reading ".toList ++ inQuotes (titleOf file) ++ ": ".toList ++ e.wording)
      closeInput d
      showParts titles showing false rest

/-- Whether titles are wanted. -/
def wantsTitles (g : Given) : Bool :=
  match g.lastOf? ["quiet", "silent", "verbose"] with
  | some "verbose" => true
  | some _ => false
  | none => g.operands.length > 1

/-- Shows the beginning of an opened file. -/
def showFront (p : Part) (d : Nat) : Work (Except Obstacle Unit) := do
  if p.leavesOut then
    match ← readAll d with
    | .error e => pure (.error e)
    | .ok t =>
      say (p.withoutEnd t)
      pure (.ok ())
  else pure ((← feed p.front d p.count).map fun _ => ())

/-- Shows the end of an opened file. -/
def showBack (p : Part) (d : Nat) : Work (Except Obstacle Unit) := do
  if p.leavesOut then pure ((← feed p.back d (p.count - 1)).map fun _ => ())
  else
    match ← readAll d with
    | .error e => pure (.error e)
    | .ok t =>
      say (p.end_ t)
      pure (.ok ())

/-- The part that the options of `head` and `tail` ask for. A sign in front of the count says that
    it is of what is left out. -/
def partOf (sign : Char) (g : Given) : Work Part := do
  let ending := if g.has "zero-terminated" then '\x00' else '\n'
  match g.lastOf? ["lines", "bytes"] with
  | none => pure ⟨true, 10, false, ending⟩
  | some key =>
    let value := (g.last? key).getD []
    let (leavesOut, digits) : Bool × Text := match value with
      | c :: rest =>
        if c = sign then (true, rest) else if c = '-' then (false, rest) else (false, value)
      | [] => (false, [])
    match size? digits with
    | some n => pure ⟨key == "lines", n, leavesOut, ending⟩
    | none =>
      giveUp ("invalid number of ".toList ++ key.toList ++ ": ".toList ++
        quoted (if value.head? = some '-' then digits else value))

/-- The options of `head` and `tail`. -/
def partSwitches : List Switch :=
  [valued 'n' "lines", valued 'c' "bytes", flag 'q' "quiet", named "silent" .nothing,
    flag 'v' "verbose", flag 'z' "zero-terminated"]

/-- A count right behind a hyphen as an option of its own, with the letters behind it. -/
def withOldCount (t : Text) : Except Char (List Text) :=
  let digits := t.takeWhile Char.isDigit
  let letters := t.drop digits.length
  let unit := letters.filter fun c => "bkm".toList.contains c
  match letters.find? fun c => !"clqvzbkm".toList.contains c with
  | some c => .error c
  | none =>
    let key := if letters.contains 'c' || letters.contains 'b' then 'c' else 'n'
    let others := letters.filter fun c => "qvz".toList.contains c
    .ok (['-', key] :: (digits ++ unit) :: others.map fun c => ['-', c])

/-- Shows the beginnings of files. -/
def head : Program :=
  tool usualManner fun arguments => do
    let arguments ← match arguments with
      | ('-' :: c :: t) :: rest =>
        if c.isDigit then
          match withOldCount (c :: t) with
          | .ok l => pure (l ++ rest)
          | .error c => misuse ("invalid trailing option -- ".toList ++ [c])
        else pure arguments
      | _ => pure arguments
    match (Grammar.usual partSwitches).read arguments with
    | .error e => misuse e
    | .ok g =>
      let part ← partOf '-' g
      showParts (wantsTitles g) (showFront part) true
        (filesOf g)

/-- Whether the first argument of `tail` is a count, with at most one file behind it. -/
def isOldCount (arguments : List Text) : Bool :=
  match arguments with
  | [sign :: c :: t] | [sign :: c :: t, _] =>
    let letters := (c :: t).dropWhile Char.isDigit
    let isUnit (c : Char) : Bool := c == 'c' || c == 'l' || c == 'b' || c == 'f'
    (sign == '+' || sign == '-' && c.isDigit) && letters.length ≤ 1 && letters.all isUnit
  | _ => false

/-- Shows the ends of files. -/
def tail : Program :=
  tool usualManner fun arguments => do
    let arguments ← match arguments with
      | (sign :: t) :: rest =>
        if isOldCount arguments then
          let digits := t.takeWhile Char.isDigit
          let letters := t.drop digits.length
          let key := if letters = ['c'] || letters = ['b'] then 'c' else 'n'
          let count := if digits.isEmpty then "10".toList else digits
          let unit : Text := if letters = ['b'] then letters else []
          let front : Text := if sign = '+' then ['+'] else []
          pure (['-', key] :: (front ++ count ++ unit) :: rest)
        else if sign = '-' && t.head?.any Char.isDigit then
          giveUp ("option used in invalid context -- ".toList ++ t.take 1)
        else pure arguments
      | _ => pure arguments
    let switches := partSwitches ++ [named "follow" .maybe, flag 'f' "", flag 'F' "",
      named "retry" .nothing, valued 's' "sleep-interval", named "pid" .value]
    match (Grammar.usual switches).read arguments with
    | .error e => misuse e
    | .ok g =>
      let part ← partOf '+' g
      showParts (wantsTitles g) (showBack part) true
        (filesOf g)

/-! ### Backwards -/

/-- Splits a text behind every occurrence of a part. -/
def splitBehind (part : Text) : Nat → List Text → Text → Text → List Text
  | 0, done, current, t => (current.reverse ++ t) :: done
  | _ + 1, done, current, [] => if current.isEmpty then done else current.reverse :: done
  | fuel + 1, done, current, c :: rest =>
    match part.isPrefixOf? (c :: rest) with
    | some rest => splitBehind part fuel ((current.reverse ++ part) :: done) [] rest
    | none => splitBehind part fuel done (c :: current) rest

/-- Splits a text in front of every occurrence of a part. -/
def splitBefore (part : Text) : Nat → List Text → Text → Text → List Text
  | 0, done, current, t => (current.reverse ++ t) :: done
  | _ + 1, done, current, [] => if current.isEmpty then done else current.reverse :: done
  | fuel + 1, done, current, c :: rest =>
    match part.isPrefixOf? (c :: rest) with
    | some rest =>
      let done := if current.isEmpty then done else current.reverse :: done
      splitBefore part fuel done part.reverse rest
    | none => splitBefore part fuel done (c :: current) rest

/-- Shows files with their last lines first. -/
def tac : Program :=
  toolOf usualManner [flag 'b' "before", flag 'r' "regex", valued 's' "separator"] fun g => do
    let part := (g.last? "separator").getD ['\n']
    let part := if part.isEmpty then ['\x00'] else part
    (filesOf g).forM fun file => do
      match ← openInput file with
      | .error e =>
        complain 1 ("failed to open ".toList ++ inQuotes file ++ " for reading: ".toList ++
          e.wording)
      | .ok d =>
        match ← readAll d with
        | .error e => complain 1 (shown file ++ ": read error: ".toList ++ e.wording)
        | .ok t =>
          let split := if g.has "before" then splitBefore else splitBehind
          say (split part (t.length + 1) [] [] t).flatten
        closeInput d

/-- Shows lines with their last characters first. -/
def rev : Program :=
  toolOf usualManner [flag '0' "zero"] fun g => do
    (filesOf g).forM fun file => do
      match ← contents file with
      | .error e => complain 1 ("cannot open ".toList ++ file ++ ": ".toList ++ e)
      | .ok t => say (Text.join ['\n'] ((Text.splitOn '\n' t).map List.reverse))

/-! ### Numbers -/

/-- Which lines get numbers. -/
inductive Numbering where
  | all
  | full
  | none
  | matching (m : Regex.Matcher)

/-- Whether a line gets a number. -/
def Numbering.covers (n : Numbering) (line : Text) : Bool :=
  match n with
  | .all => true
  | .full => !line.isEmpty
  | .none => false
  | .matching m => (m.find? Option.none line).isSome

/-- How lines are numbered. -/
structure NumberStyle where
  header : Numbering
  body : Numbering
  footer : Numbering
  delimiter : Text
  format : Text
  width : Nat
  separator : Text
  first : Int
  increment : Int
  restarts : Bool
  joins : Nat

/-- Where the numbering is: the section, the next number, and how many empty lines have gone by. -/
structure NumberState where
  section_ : Nat
  number : Int
  empties : Nat

/-- A number in its column. -/
def NumberStyle.column (s : NumberStyle) (n : Int) : Text :=
  let digits := Text.ofInt n
  if s.format = "ln".toList then digits.rightpad s.width ' '
  else if s.format = "rz".toList then
    let bare := Text.ofNat n.natAbs
    let sign : Text := if n < 0 then ['-'] else []
    sign ++ bare.leftpad (s.width - sign.length) '0'
  else digits.leftpad s.width ' '

/-- Numbers a line. A line of delimiters begins a section. -/
def NumberStyle.line (s : NumberStyle) (st : NumberState) (line : Text) : NumberState × Text :=
  let starts (n section_ : Nat) : Option NumberState :=
    if !s.delimiter.isEmpty && line == (List.replicate n s.delimiter).flatten then
      some ⟨section_, if s.restarts then s.first else st.number, 0⟩
    else Option.none
  match ((starts 3 0).orElse fun _ => starts 2 1).orElse fun _ => starts 1 2 with
  | some st => (st, ['\n'])
  | Option.none =>
    let style := if st.section_ = 0 then s.header else if st.section_ = 1 then s.body else s.footer
    let empties := if line.isEmpty then st.empties + 1 else 0
    let isCovered := match style with
      | .all => !line.isEmpty || empties % s.joins == 0
      | style => style.covers line
    if isCovered then
      ({ st with number := st.number + s.increment, empties := empties },
        s.column st.number ++ s.separator ++ line ++ ['\n'])
    else
      ({ st with empties := empties },
        List.replicate (s.width + s.separator.length) ' ' ++ line ++ ['\n'])

/-- The numbering that a text asks for. -/
def numbering (kind : String) (t : Text) : Work Numbering :=
  match t with
  | ['a'] => pure .all
  | ['t'] => pure .full
  | ['n'] => pure .none
  | 'p' :: t =>
    match Regex.compile .basic false t with
    | .ok m => pure (.matching m)
    | .error e => giveUp e.message.toList
  | t => misuse ("invalid ".toList ++ kind.toList ++ " numbering style: ".toList ++ quoted t)

/-- A number among the options of `nl`. -/
def numberOption (g : Given) (key message : String) (usual least : Int) : Work Int :=
  match g.last? key with
  | Option.none => pure usual
  | some t =>
    match Numeral.integer? 10 t with
    | some (n, []) =>
      if n < least then
        giveUp (message.toList ++ ": ".toList ++ quoted t ++
          ": Numerical result out of range".toList)
      else pure n
    | _ => giveUp (message.toList ++ ": ".toList ++ quoted t)

/-- Numbers the lines of files. -/
def nl : Program :=
  toolOf usualManner
    [valued 'b' "body-numbering", valued 'd' "section-delimiter", valued 'f' "footer-numbering",
      valued 'h' "header-numbering", valued 'i' "line-increment", valued 'l' "join-blank-lines",
      valued 'n' "number-format", flag 'p' "no-renumber", valued 's' "number-separator",
      valued 'v' "starting-line-number", valued 'w' "number-width"]
    fun g => do
      let header ← numbering "header" ((g.last? "header-numbering").getD ['n'])
      let body ← numbering "body" ((g.last? "body-numbering").getD ['t'])
      let footer ← numbering "footer" ((g.last? "footer-numbering").getD ['n'])
      let format := (g.last? "number-format").getD "rn".toList
      if !(["ln", "rn", "rz"].contains (String.ofList format)) then
        misuse ("invalid line numbering format: ".toList ++ quoted format)
      let first ← numberOption g "starting-line-number" "invalid starting line number" 1
        (-(Word.half : Int))
      let increment ← numberOption g "line-increment" "invalid line number increment" 1
        (-(Word.half : Int))
      let joins ← numberOption g "join-blank-lines" "invalid line number of blank lines" 1 1
      let width ← numberOption g "number-width" "invalid line number field width" 6 1
      let delimiter : Text := match g.last? "section-delimiter" with
        | some [c] => [c, ':']
        | some t => t
        | Option.none => ['\\', ':']
      let style : NumberStyle :=
        ⟨header, body, footer, delimiter, format, width.toNat,
          (g.last? "number-separator").getD ['\t'], first, increment, !g.has "no-renumber",
          joins.toNat⟩
      let lines : Lines NumberState :=
        ⟨'\n', fun st line _ => style.line st line, fun _ => false⟩
      let _ ← foldFiles (feedLines lines) ⟨1, first, 0⟩ (filesOf g)

end Console.Host.Tool
