import Console.Host.Regex.Matcher
import Console.Host.Numeral
import Console.Host.Tool.Difference.Script
import Console.Host.Tool.Work

/-! The forms in which changes are shown: alone, with the lines around them, as commands of an
    editor, side by side, or merged after a template. -/

namespace Console.Host.Tool.Difference

/-- A file: how its heading begins and ends, its lines, and whether the last one has a newline. -/
structure Side where
  name : Text
  time : Text
  lines : Array Text
  isEnded : Bool

/-- Whether a line has a newline. -/
def Side.hasEnd (s : Side) (n : Nat) : Bool := s.isEnded || n + 1 < s.lines.size

/-- Templates for lines and for groups of them. -/
structure Templates where
  sameLine : Text
  oldLine : Text
  newLine : Text
  sameGroup : Text
  oldGroup : Text
  newGroup : Text
  changedGroup : Text

/-- A form. -/
inductive Form where
  | normal
  | context
  | unified
  | backward
  | forward
  | revision
  | beside
  | merged (templates : Templates)

/-- How changes are shown. -/
structure Look where
  form : Form
  /-- How many lines stand around changes. -/
  around : Nat
  expandsTabs : Bool
  startsWithTab : Bool
  tabSize : Nat
  /-- Whether no blank stands in front of empty lines. -/
  barely : Bool
  width : Nat
  hidesSame : Bool
  leftOnly : Bool
  /-- What the lines match that tell where a change is. -/
  landmark : Option Regex.Matcher
  isColored : Bool

/-- A change, and whether it does not count. -/
abbrev Step := Change × Bool

/-! ### Lines -/

/-- A text in a color, if there are colors. -/
def Look.paint (k : Look) (color : String) (t : Text) : Text :=
  if k.isColored then '\x1b' :: '[' :: color.toList ++ 'm' :: t ++ "\x1b[0m".toList else t

/-- The color of what goes. -/
def red : String := "31"

/-- The color of what comes. -/
def green : String := "32"

/-- The color of places. -/
def cyan : String := "36"

/-- A text with blanks in place of tabs, from a column on. -/
def untabbed (size : Nat) : Nat → Text → Text
  | _, [] => []
  | column, c :: rest =>
    match c with
    | '\t' =>
      let next := column + size - column % size
      List.replicate (next - column) ' ' ++ untabbed size next rest
    | '\r' => c :: untabbed size 0 rest
    | '\x08' => if column = 0 then untabbed size 0 rest else c :: untabbed size (column - 1) rest
    | c => c :: untabbed size (if isPrintable c then column + 1 else column) rest

/-- A line as it is shown. -/
def Look.text (k : Look) (t : Text) : Text := if k.expandsTabs then untabbed k.tabSize 0 t else t

/-- What stands behind a line: a newline, with a remark if the file has none there. -/
def ending (s : Side) (n : Nat) : Text :=
  if s.hasEnd n then ['\n'] else "\n\\ No newline at end of file\n".toList

/-- A line of a file behind a mark and a gap. -/
def Look.line (k : Look) (color : Option String) (mark gap : Text) (s : Side) (n : Nat) : Text :=
  let t := s.lines.getD n []
  let gap := if k.startsWithTab then ['\t'] else gap
  let front := mark ++ (if k.barely && t.isEmpty then [] else gap)
  let shown := front ++ k.text t
  color.elim shown (fun c => k.paint c shown) ++ ending s n

/-- Lines of a file behind a mark. -/
def Look.block (k : Look) (color mark : String) (s : Side) (start count : Nat) : Text :=
  ((List.range count).map (start + ·)).flatMap
    (k.line (some color) mark.toList (if mark.isEmpty then [] else [' ']) s)

/-- Lines of a file as they are. With `whole` the last one has a newline in any case. -/
def Look.plain (k : Look) (whole : Bool) (s : Side) (start count : Nat) : Text :=
  ((List.range count).map (start + ·)).flatMap fun n =>
    k.text (s.lines.getD n []) ++ (if whole || s.hasEnd n then ['\n'] else [])

/-- A range of lines: of none, the number of the one before. -/
def range (separator : Char) (start count : Nat) : Text :=
  if count ≤ 1 then Text.ofNat (start + count)
  else Text.ofNat (start + 1) ++ separator :: Text.ofNat (start + count)

/-- The letter for a change. -/
def Change.letter (c : Change) : Char :=
  if c.inserted = 0 then 'd' else if c.deleted = 0 then 'a' else 'c'

/-! ### Changes alone -/

/-- A change with its lines. -/
def Look.normal (k : Look) (a b : Side) (c : Change) : Text :=
  let place := range ',' c.start c.deleted ++ c.letter :: range ',' c.otherStart c.inserted
  k.paint cyan place ++ ['\n'] ++ k.block red "<" a c.start c.deleted ++
    (if c.letter = 'c' then "---\n".toList else []) ++ k.block green ">" b c.otherStart c.inserted

/-- The lines of a command. A line that would end it is written with another point, and mended. -/
def Look.input (k : Look) (b : Side) : Bool → List Nat → Text
  | isOpen, [] => if isOpen then ".\n".toList else []
  | isOpen, n :: rest =>
    let front : Text := if isOpen then [] else ['a', '\n']
    if b.lines.getD n [] = ['.'] then front ++ "..\n.\ns/.//\n".toList ++ k.input b false rest
    else front ++ k.plain true b n 1 ++ k.input b true rest

/-- A command that makes a change, if those behind it are made already. -/
def Look.backward (k : Look) (b : Side) (c : Change) : Text :=
  range ',' c.start c.deleted ++ [c.letter, '\n'] ++
    (if c.inserted = 0 then []
    else k.input b true ((List.range c.inserted).map (c.otherStart + ·)))

/-- A command with the numbers that lines have before all changes. -/
def Look.forward (k : Look) (b : Side) (c : Change) : Text :=
  c.letter :: range ' ' c.start c.deleted ++ ['\n'] ++
    (if c.inserted = 0 then [] else k.plain true b c.otherStart c.inserted ++ ".\n".toList)

/-- Commands with counts of lines. -/
def Look.revision (k : Look) (b : Side) (c : Change) : Text :=
  let command (letter : Char) (n count : Nat) : Text :=
    letter :: Text.ofNat n ++ ' ' :: Text.ofNat count ++ ['\n']
  (if c.deleted = 0 then [] else command 'd' (c.start + 1) c.deleted) ++
    (if c.inserted = 0 then []
    else command 'a' (c.start + c.deleted) c.inserted ++ k.plain false b c.otherStart c.inserted)

/-! ### Changes with the lines around them -/

/-- Puts changes together that are so near that they share lines. One that does not count must be
    nearer to the one before it. -/
def Look.hunks (k : Look) : List Step → List (List Step)
  | [] => []
  | s :: rest =>
    match k.hunks rest with
    | (next :: others) :: hunks =>
      let gap := next.1.start - (s.1.start + s.1.deleted)
      let limit := if next.2 then k.around else 2 * k.around + 1
      if gap < limit then (s :: next :: others) :: hunks else [s] :: (next :: others) :: hunks
    | hunks => [s] :: hunks

/-- The lines of a file from a place on up to another one, with those around them. -/
def Look.widened (k : Look) (s : Side) (start stop : Nat) : Nat × Nat :=
  (start - k.around, min s.lines.size (stop + k.around))

/-- The last line in front of a place that tells where it is. -/
def Look.landmarkOf (k : Look) (s : Side) (place : Nat) : Text :=
  match k.landmark with
  | none => []
  | some m =>
    match (List.range place).reverse.find? fun n => (m.find? none (s.lines.getD n [])).isSome with
    | none => []
    | some n =>
      let blank (c : Char) : Bool := Numeral.isSpace c
      let t := ((s.lines.getD n []).dropWhile blank).take 40
      ' ' :: (t.reverse.dropWhile blank).reverse

/-- The range of a hunk as a first line and a count. -/
def counted (start stop : Nat) : Text :=
  match stop - start with
  | 0 => Text.ofNat stop ++ ",0".toList
  | 1 => Text.ofNat stop
  | n => Text.ofNat (start + 1) ++ ',' :: Text.ofNat n

/-- Old and new lines of changes together, with the lines in between, from a place on. -/
def Look.mixed (k : Look) (a b : Side) (stop : Nat) : Nat → List Step → Text
  | place, [] => same place stop
  | place, (c, _) :: rest =>
    same place c.start ++ changed red "-" a c.start c.deleted ++
      changed green "+" b c.otherStart c.inserted ++
      k.mixed a b stop (c.start + c.deleted) rest
where
  /-- Lines that stay. -/
  same (start stop : Nat) : Text :=
    ((List.range (stop - start)).map (start + ·)).flatMap (k.line none [] [' '] a)
  /-- Lines that go or come. -/
  changed (color mark : String) (s : Side) (start count : Nat) : Text :=
    ((List.range count).map (start + ·)).flatMap (k.line (some color) mark.toList [] s)

/-- A hunk in which old and new lines stand together. -/
def Look.unified (k : Look) (a b : Side) (h : List Step) : Text :=
  match h, h.getLast? with
  | (first, _) :: _, some (last, _) =>
    let (start, stop) := k.widened a first.start (last.start + last.deleted)
    let (otherStart, otherStop) := k.widened b first.otherStart (last.otherStart + last.inserted)
    let place := "@@ -".toList ++ counted start stop ++ " +".toList ++
      counted otherStart otherStop ++ " @@".toList
    k.paint cyan place ++ k.landmarkOf a start ++ ['\n'] ++ k.mixed a b stop start h
  | _, _ => []

/-- The range of a hunk as a first and a last line. -/
def spanned (start stop : Nat) : Text :=
  if stop ≤ start + 1 then Text.ofNat stop else Text.ofNat (start + 1) ++ ',' :: Text.ofNat stop

/-- The lines of one file in a hunk, with marks for those that change. A change is given by where it
    begins and ends here, and whether it has lines in the other file, too. -/
def Look.half (k : Look) (color mark : String) (s : Side) (start stop : Nat)
    (changes : List (Nat × Nat × Bool)) : Text :=
  ((List.range (stop - start)).map (start + ·)).flatMap fun n =>
    let mark := match changes.find? fun (i, j, _) => i ≤ n && n < j with
      | some (_, _, isBoth) => if isBoth then "!" else mark
      | none => " "
    k.line (some color) mark.toList [' '] s n

/-- A hunk in which old and new lines stand apart. -/
def Look.context (k : Look) (a b : Side) (h : List Step) : Text :=
  match h, h.getLast? with
  | (first, _) :: _, some (last, _) =>
    let (start, stop) := k.widened a first.start (last.start + last.deleted)
    let (otherStart, otherStop) := k.widened b first.otherStart (last.otherStart + last.inserted)
    let old := h.map fun (c, _) => (c.start, c.start + c.deleted, c.inserted > 0)
    let new := h.map fun (c, _) => (c.otherStart, c.otherStart + c.inserted, c.deleted > 0)
    let place (sign : String) (start stop : Nat) : Text :=
      k.paint cyan (sign.toList ++ ' ' :: spanned start stop ++ ' ' :: sign.toList ++
        [sign.front]) ++ ['\n']
    "***************".toList ++ k.landmarkOf a start ++ ['\n'] ++ place "***" start stop ++
      (if h.any fun (c, _) => c.deleted > 0 then k.half red "-" a start stop old else []) ++
      place "---" otherStart otherStop ++
      (if h.any fun (c, _) => c.inserted > 0 then
        k.half green "+" b otherStart otherStop new
      else [])
  | _, _ => []

/-! ### Side by side -/

/-- The width of a half line, and the column at which the second one begins. -/
def Look.halves (k : Look) : Nat × Nat :=
  let t := if k.expandsTabs then 1 else k.tabSize
  let w := k.width
  let place := w / 2 + (t + 3) / 2 + (w % 2) * ((t + 3) % 2)
  let place := place - place % t
  let half := if place ≤ 3 || w ≤ place then 0 else min (place - 3) (w - place)
  (half, if half = 0 then w else place)

/-- Tabs and blanks from a column up to another one. -/
def Look.gap (k : Look) : Nat → Nat → Nat → Text
  | 0, _, _ => []
  | fuel + 1, start, stop =>
    let next := start + k.tabSize - start % k.tabSize
    if !k.expandsTabs && next ≤ stop then '\t' :: k.gap fuel next stop
    else List.replicate (stop - start) ' '

/-- A half line up to a width, and the column behind it. The line has come to a column, of which so
    much is written. A carriage return goes back to the column at which the half begins. -/
def Look.half_ (k : Look) (indent bound : Nat) : Nat → Nat → Text → Text × Nat
  | _, written, [] => ([], written)
  | place, written, c :: rest =>
    match c with
    | '\t' =>
      let next := place + k.tabSize - place % k.tabSize
      if place = written then
        if k.expandsTabs then
          let stop := min next bound
          let (t, n) := k.half_ indent bound next (max written stop) rest
          (List.replicate (stop - written) ' ' ++ t, n)
        else if next < bound then
          let (t, n) := k.half_ indent bound next next rest
          ('\t' :: t, n)
        else k.half_ indent bound next written rest
      else k.half_ indent bound next written rest
    | '\r' =>
      let (t, n) := k.half_ indent bound 0 0 rest
      ('\r' :: k.gap (indent + 1) 0 indent ++ t, n)
    | '\x08' =>
      if place = 0 then k.half_ indent bound 0 written rest
      else
        let place := place - 1
        if place ≥ bound then k.half_ indent bound place written rest
        else if written ≤ place then
          let (t, n) := k.half_ indent bound place place rest
          (List.replicate (place - written) ' ' ++ t, n)
        else
          let (t, n) := k.half_ indent bound place place rest
          (c :: t, n)
    | c =>
      if isPrintable c then
        if place < bound then
          let (t, n) := k.half_ indent bound (place + 1) (place + 1) rest
          (c :: t, n)
        else k.half_ indent bound (place + 1) written rest
      else
        let (t, n) := k.half_ indent bound place written rest
        (if place < bound then c :: t else t, n)

/-- A line of a side. -/
structure Half where
  side : Side
  number : Nat

/-- Whether a half line has a newline. -/
def Half.hasEnd (h : Half) : Bool := h.side.hasEnd h.number

/-- Two lines side by side with a sign in between. -/
def Look.twoLines (k : Look) (left : Option Half) (sign : Char) (right : Option Half) : Text :=
  let (half, second) := k.halves
  let (front, column) : Text × Nat := match left with
    | none => ([], 0)
    | some h => k.half_ 0 half 0 0 (h.side.lines.getD h.number [])
  let leftEnds := left.any Half.hasEnd
  let rightEnds := right.any Half.hasEnd
  let sign := if sign = '|' && leftEnds != rightEnds then if leftEnds then '/' else '\\' else sign
  let middle := (half + second - 1) / 2
  let (between, column) : Text × Nat :=
    if sign = ' ' then ([], column)
    else (k.gap (k.width + 1) column middle ++ [sign], max column middle + 1)
  let behind := match right with
    | none => []
    | some h =>
      let t := h.side.lines.getD h.number []
      if t.isEmpty && h.hasEnd then []
      else k.gap (k.width + 1) column second ++ (k.half_ second half 0 0 t).1
  let shown := front ++ between ++ behind ++ (if leftEnds || rightEnds then ['\n'] else [])
  match sign with
  | '<' => k.paint red shown
  | '>' => k.paint green shown
  | _ => shown

/-- Lines that both files have. -/
def Look.sameLines (k : Look) (a b : Side) (start stop otherStart otherStop : Nat) : Text :=
  if k.hidesSame then []
  else if k.leftOnly then
    (List.range (stop - start)).flatMap fun i => k.twoLines (some ⟨a, start + i⟩) '(' none
  else
    let count := max (stop - start) (otherStop - otherStart)
    (List.range count).flatMap fun i =>
      let left := if start + i < stop then some (Half.mk a (start + i)) else none
      let right := if otherStart + i < otherStop then some (Half.mk b (otherStart + i)) else none
      let sign := if left.isNone then ')' else if right.isNone then '(' else ' '
      k.twoLines left sign right

/-- A change side by side. -/
def Look.changeBeside (k : Look) (a b : Side) (c : Change) : Text :=
  let both := min c.deleted c.inserted
  let left (i : Nat) : Option Half := some ⟨a, c.start + i⟩
  let right (i : Nat) : Option Half := some ⟨b, c.otherStart + i⟩
  (List.range both).flatMap (fun i => k.twoLines (left i) '|' (right i)) ++
    ((List.range c.inserted).drop both).flatMap (fun i => k.twoLines none '>' (right i)) ++
    ((List.range c.deleted).drop both).flatMap fun i => k.twoLines (left i) '<' none

/-- Both files side by side, from places on. -/
def Look.beside (k : Look) (a b : Side) : Nat → Nat → List Step → Text
  | i, j, [] => k.sameLines a b i a.lines.size j b.lines.size
  | i, j, (c, isTrivial) :: rest =>
    if isTrivial then k.beside a b i j rest
    else
      k.sameLines a b i c.start j c.otherStart ++ k.changeBeside a b c ++
        k.beside a b (c.start + c.deleted) (c.otherStart + c.inserted) rest

/-! ### Templates -/

/-- A number as a template asks for it behind a percent sign, and what follows. -/
def numberIn? (values : List (Char × Nat)) (t : Text) : Option (Text × Text) :=
  let flags := t.takeWhile fun c => ['-', '\'', '0'].elem c
  let t := t.drop flags.length
  let width := t.takeWhile Char.isDigit
  let t := t.drop width.length
  let (least, t) : Text × Text := match t with
    | '.' :: rest => (rest.takeWhile Char.isDigit, rest.dropWhile Char.isDigit)
    | t => ([], t)
  match t with
  | kind :: letter :: rest => do
    let n ← values.lookup letter
    let digits ← match kind with
      | 'd' => some (Text.ofNat n)
      | 'o' => some (Nat.toDigits 8 n)
      | 'x' => some (Nat.toDigits 16 n)
      | 'X' => some ((Nat.toDigits 16 n).map Char.toUpper)
      | _ => none
    let width := (Text.toNat? width).getD 0
    let digits := digits.leftpad ((Text.toNat? least).getD 1) '0'
    let shown := if flags.elem '-' then digits.rightpad width ' '
      else digits.leftpad width (if flags.elem '0' then '0' else ' ')
    some (shown, rest)
  | _ => none

/-- A character in quotes as a template has it behind a percent sign and a letter. -/
def characterIn? : Text → Option (Text × Text)
  | 'c' :: '\'' :: '\\' :: rest =>
    let digits := rest.takeWhile Char.isDigit
    match rest.drop digits.length with
    | '\'' :: rest =>
      let n := digits.foldl (fun n c => n * 8 + (c.toNat - 48)) 0
      some ([Char.ofNat (n % 256)], rest)
    | _ => none
  | 'c' :: '\'' :: c :: '\'' :: rest => some ([c], rest)
  | _ => none

/-- Fills in a template: some signs stand for texts, some letters for numbers. -/
def filled (texts : List (Char × Text)) (values : List (Char × Nat)) : Nat → Text → Text
  | 0, t => t
  | _ + 1, [] => []
  | fuel + 1, '%' :: c :: rest =>
    match texts.lookup c with
    | some t => t ++ filled texts values fuel rest
    | none =>
      match (characterIn? (c :: rest)).orElse fun _ => numberIn? values (c :: rest) with
      | some (t, rest) => t ++ filled texts values fuel rest
      | none => '%' :: c :: filled texts values fuel rest
  | fuel + 1, c :: rest => c :: filled texts values fuel rest

/-- Lines of a file, each after a template. -/
def Look.templated (k : Look) (template : Text) (s : Side) (start count : Nat) : Text :=
  ((List.range count).map (start + ·)).flatMap fun n =>
    let t := k.text (s.lines.getD n [])
    let whole := t ++ (if s.hasEnd n then ['\n'] else [])
    filled [('L', whole), ('l', t), ('%', ['%'])] [('n', n + 1)] (template.length + 1) template

/-- A group of lines after a template. -/
def Look.group (k : Look) (m : Templates) (template : Text) (a b : Side) (c : Change) : Text :=
  let old := k.templated m.oldLine a c.start c.deleted
  let new := k.templated m.newLine b c.otherStart c.inserted
  let same := k.templated m.sameLine a c.start c.deleted
  let values := [('f', c.start + 1), ('l', c.start + c.deleted), ('n', c.deleted), ('e', c.start),
    ('m', c.start + c.deleted + 1), ('F', c.otherStart + 1), ('L', c.otherStart + c.inserted),
    ('N', c.inserted), ('E', c.otherStart), ('M', c.otherStart + c.inserted + 1)]
  filled [('<', old), ('>', new), ('=', same), ('%', ['%'])] values (template.length + 1) template

/-- Both files merged after templates, from places on. -/
def Look.merged (k : Look) (m : Templates) (a b : Side) : Nat → Nat → List Step → Text
  | i, j, [] => same i a.lines.size j b.lines.size
  | i, j, (c, isTrivial) :: rest =>
    if isTrivial then k.merged m a b i j rest
    else
      let template := if c.inserted = 0 then m.oldGroup else if c.deleted = 0 then m.newGroup
        else m.changedGroup
      same i c.start j c.otherStart ++ k.group m template a b c ++
        k.merged m a b (c.start + c.deleted) (c.otherStart + c.inserted) rest
where
  /-- Lines that both files have. -/
  same (start stop otherStart otherStop : Nat) : Text :=
    if start = stop && otherStart = otherStop then []
    else k.group m m.sameGroup a b ⟨start, stop - start, otherStart, otherStop - otherStart⟩

/-! ### All changes -/

/-- Whether a form shows something even if there are no changes. -/
def Look.showsSame (k : Look) : Bool :=
  match k.form with
  | .beside => !k.hidesSame
  | .merged _ => true
  | _ => false

/-- The heading of a form. -/
def Look.heading (k : Look) (a b : Side) : Text :=
  let line (sign : String) (s : Side) : Text :=
    k.paint "1" (sign.toList ++ s.name ++ s.time) ++ ['\n']
  match k.form with
  | .context => line "*** " a ++ line "--- " b
  | .unified => line "--- " a ++ line "+++ " b
  | _ => []

/-- What is shown of the changes. -/
def Look.shown (k : Look) (a b : Side) (steps : List Step) : Text :=
  let counting := (steps.filter fun (_, isTrivial) => !isTrivial).map Prod.fst
  let hunks (use : List Step → Text) : Text :=
    (k.hunks steps).flatMap fun h => if h.all Prod.snd then [] else use h
  match k.form with
  | .normal => counting.flatMap (k.normal a b)
  | .context => hunks (k.context a b)
  | .unified => hunks (k.unified a b)
  | .backward => counting.reverse.flatMap (k.backward b)
  | .forward => counting.flatMap (k.forward b)
  | .revision => counting.flatMap (k.revision b)
  | .beside => k.beside a b 0 0 steps
  | .merged m => k.merged m a b 0 0 steps

end Console.Host.Tool.Difference
