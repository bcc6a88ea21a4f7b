import Console.Host.Tool.Sorting

/-! Tools for sorted lines: which of them are repeated, which are in both of two files, and lines
    joined by a common field; and the sorting of a partial order. -/

namespace Console.Host.Tool

open Work

/-! ### Repeated lines -/

/-- What is shown of a run of lines that are the same. -/
structure RunStyle where
  /-- The key of a line, by which lines are the same. -/
  key : Text → Text
  counts : Bool
  showsSingle : Bool
  showsRepeated : Bool
  showsAll : Bool
  /-- Where empty lines stand: before groups, between them and behind them. -/
  before : Bool
  between : Bool
  behind : Bool
  ending : Char

/-- A run of lines: the first one, the others if they are shown with the last one first, and how
    many there are. Nothing may have been shown before it. -/
structure LineRun where
  first : Text
  others : List Text
  count : Nat
  hasShown : Bool

/-- Shows a run that has ended. -/
def RunStyle.shown (s : RunStyle) (r : LineRun) : Text :=
  if !(if r.count = 1 then s.showsSingle else s.showsRepeated) then []
  else
    let lead : Text := if s.counts then (Text.ofNat r.count).leftpad 7 ' ' ++ [' '] else []
    let gap : Text := if s.before || s.between && r.hasShown then [s.ending] else []
    let end_ : Text := if s.behind then [s.ending] else []
    gap ++ ((r.first :: r.others.reverse).flatMap fun line => lead ++ line ++ [s.ending]) ++ end_

/-- Takes a line into a run, or ends the run. -/
def RunStyle.line (s : RunStyle) (r : Option LineRun) (line : Text) : Option LineRun × Text :=
  match r with
  | none => (some ⟨line, [], 1, false⟩, [])
  | some r =>
    if s.key r.first == s.key line then
      (some { r with
        others := if s.showsAll then line :: r.others else r.others, count := r.count + 1 }, [])
    else
      let t := s.shown r
      (some ⟨line, [], 1, r.hasShown || !t.isEmpty⟩, t)

/-- A word for an option, which can be shortened. -/
def chosen (option : String) (words : List String) (t : Text) : Work String := do
  pick (← get).manner.failure ("'--".toList ++ option.toList ++ "'".toList)
    (words.map fun w => ([w], w)) t

/-- A count among the options of `uniq`. -/
def uniqCount (g : Given) (key words : String) : Work (Option Nat) := do
  match g.last? key with
  | none => pure none
  | some t =>
    match Numeral.integer? 10 t with
    | some (n, []) =>
      if n < 0 then giveUp (t ++ ": ".toList ++ words.toList) else pure (some n.toNat)
    | _ => giveUp (t ++ ": ".toList ++ words.toList)

/-- The options of `uniq`. -/
def uniqSwitches : List Switch :=
  [flag 'c' "count", flag 'd' "repeated", flag 'D' "", named "all-repeated" .maybe,
    valued 'f' "skip-fields", named "group" .maybe, flag 'i' "ignore-case",
    valued 's' "skip-chars", flag 'u' "unique", flag 'z' "zero-terminated",
    valued 'w' "check-chars"]

/-- Old forms of counts to be skipped as options. -/
def withOldSkips : List Text → List Text
  | [] => []
  | ['-', '-'] :: rest => ['-', '-'] :: rest
  | (sign :: t) :: rest =>
    if t.isEmpty || !t.all Char.isDigit then (sign :: t) :: withOldSkips rest
    else if sign = '-' then ('-' :: 'f' :: t) :: withOldSkips rest
    else if sign = '+' then ('-' :: 's' :: t) :: withOldSkips rest
    else (sign :: t) :: withOldSkips rest
  | t :: rest => t :: withOldSkips rest

/-- Shows each of several lines that are the same once. -/
def uniq : Program :=
  tool usualManner fun arguments => do
    match (Grammar.usual uniqSwitches).read (withOldSkips arguments) with
    | .error e => misuse e
    | .ok g =>
      let fields ← uniqCount g "skip-fields" "invalid number of fields to skip"
      let chars ← uniqCount g "skip-chars" "invalid number of bytes to skip"
      let width ← uniqCount g "check-chars" "invalid number of bytes to compare"
      let all ← match g.last? "all-repeated" with
        | none => pure "none"
        | some [] => pure "none"
        | some t => chosen "all-repeated" ["none", "prepend", "separate"] t
      let group ← match g.last? "group" with
        | none => pure ""
        | some [] => pure "separate"
        | some t => chosen "group" ["prepend", "append", "separate", "both"] t
      let showsAll := g.has "D" || g.has "all-repeated"
      if !group.isEmpty && (showsAll || ["count", "repeated", "unique"].any g.has) then
        misuse "--group is mutually exclusive with -c/-d/-D/-u".toList
      if showsAll && g.has "count" then
        misuse "printing all duplicated lines and repeat counts is meaningless".toList
      let skipField (t : Text) : Text :=
        (t.dropWhile Sorting.isBlank).dropWhile fun c => !Sorting.isBlank c
      let key (t : Text) : Text :=
        let t := ((List.range (fields.getD 0)).foldl (fun t _ => skipField t) t).drop (chars.getD 0)
        let t := (width.map fun n => t.take n).getD t
        if g.has "ignore-case" then Text.lowerAscii t else t
      let repeatedOnly := g.has "repeated" || showsAll
      let style : RunStyle :=
        { key := key
          counts := g.has "count"
          showsSingle := !repeatedOnly
          showsRepeated := !g.has "unique"
          showsAll := showsAll || !group.isEmpty
          before := group == "prepend" || group == "both" || all == "prepend"
          between := group == "separate" || all == "separate"
          behind := group == "append"
          ending := if g.has "zero-terminated" then '\x00' else '\n' }
      let lines : Lines (Option LineRun) :=
        ⟨style.ending, fun r line _ => style.line r line, fun _ => false⟩
      match g.operands with
      | _ :: _ :: extra :: _ => misuse ("extra operand ".toList ++ quoted extra)
      | operands =>
        let input := (operands[0]?).getD ['-']
        match ← openInput input with
        | .error e => giveUp (faultOf input e.wording)
        | .ok d =>
          match operands[1]? with
          | none | some ['-'] => pure ()
          | some output =>
            match ← step (Prog.open_ 3 output .writing Prog.openMode) with
            | .error e => giveUp (faultOf output e.wording)
            | .ok d => step (Prog.act fun w =>
                ((), match w.openingNumber? d with
                  | some n => w.connect 1 n
                  | none => w))
          match ← feedLines lines d none with
          | .error e =>
            giveUp ("error reading ".toList ++ quotedName input ++ ": ".toList ++ e.wording)
          | .ok none => pure ()
          | .ok (some r) =>
            say (style.shown r)
            if group == "both" then say [style.ending]

/-! ### Lines of two files -/

/-- What comes up when two sorted files are read side by side: a line for one of three columns, or
    that a file is not sorted. -/
inductive Pairing where
  | line (column : Nat) (t : Text)
  | unsorted (file : Nat)
  deriving DecidableEq, Repr

/-- What comes up behind a line of a file. -/
def disorderAt (file : Nat) (before : Text) (rest : List Text) : List Pairing :=
  if rest.head?.any fun t => compareText before t == .gt then [.unsorted file] else []

/-- Reads the lines of two files side by side. The last thing comes first. -/
def pairUp : Nat → List Text → List Text → List Pairing → List Pairing
  | 0, _, _, l => l
  | _ + 1, [], [], l => l
  | fuel + 1, a :: s, [], l => pairUp fuel s [] (disorderAt 1 a s ++ .line 0 a :: l)
  | fuel + 1, [], b :: t, l => pairUp fuel [] t (disorderAt 2 b t ++ .line 1 b :: l)
  | fuel + 1, a :: s, b :: t, l =>
    match compareText a b with
    | .lt => pairUp fuel s (b :: t) (disorderAt 1 a s ++ .line 0 a :: l)
    | .gt => pairUp fuel (a :: s) t (disorderAt 2 b t ++ .line 1 b :: l)
    | .eq => pairUp fuel s t (disorderAt 2 b t ++ disorderAt 1 a s ++ .line 2 a :: l)

/-- What of it counts: that a file is not sorted, once, and only behind a line that is not in both
    files unless it is to be said in any case. -/
def countedPairings (always : Bool) : Bool → List Nat → List Pairing → List Pairing
  | _, _, [] => []
  | hasUnpaired, said, .line column t :: rest =>
    .line column t :: countedPairings always (hasUnpaired || column != 2) said rest
  | hasUnpaired, said, .unsorted file :: rest =>
    if (always || hasUnpaired) && !said.contains file then
      .unsorted file :: countedPairings always hasUnpaired (file :: said) rest
    else countedPairings always hasUnpaired said rest

/-- Reports that there are not two operands. -/
def needTwo (operands : List Text) : Work (Text × Text) :=
  match operands with
  | [a, b] => pure (a, b)
  | [] => misuse "missing operand".toList
  | [a] => misuse ("missing operand after ".toList ++ quoted a)
  | _ :: _ :: c :: _ => misuse ("extra operand ".toList ++ quoted c)

/-- The lines of a file, without which nothing can be done. -/
def linesOrGiveUp (ending : Char) (file : Text) : Work (List Text) := do
  match ← contents file with
  | .error e => giveUp (faultOf file e)
  | .ok t => pure (linesBy ending t)

/-- Shows which lines are in one of two sorted files or in both. -/
def comm : Program :=
  toolOf usualManner
    [flag '1' "", flag '2' "", flag '3' "", named "check-order" .nothing,
      named "nocheck-order" .nothing, named "output-delimiter" .value, named "total" .nothing,
      flag 'z' "zero-terminated"]
    fun g => do
      let (first, second) ← needTwo g.operands
      let ending := if g.has "zero-terminated" then '\x00' else '\n'
      let a ← linesOrGiveUp ending first
      let b ← linesOrGiveUp ending second
      let between := match g.last? "output-delimiter" with
        | none => ['\t']
        | some [] => ['\x00']
        | some t => t
      let shows : List Bool := [!g.has "1", !g.has "2", !g.has "3"]
      let lead (column : Nat) : Text :=
        ((shows.take column).filter id).flatMap fun _ => between
      let l := (pairUp (a.length + b.length + 1) a b []).reverse
      let l := countedPairings (g.has "check-order") false
        (if g.has "nocheck-order" then [1, 2] else []) l
      l.forM fun
        | .line n line => if shows.getD n true then say (lead n ++ line ++ [ending]) else pure ()
        | .unsorted file => do
          complain 1 ("file ".toList ++ Text.ofNat file ++ " is not in sorted order".toList)
          if g.has "check-order" then stop 1
      if g.has "total" then
        let total (n : Nat) : Text := Text.ofNat (l.filter fun
          | .line m _ => m == n
          | .unsorted _ => false).length
        say (total 0 ++ between ++ total 1 ++ between ++ total 2 ++ between ++ "total".toList ++
          [ending])
      let isUnsorted := l.any fun
        | .line _ _ => false
        | .unsorted _ => true
      if isUnsorted then giveUp "input is not in sorted order".toList

/-! ### Joined lines -/

/-- How lines are joined. -/
structure Joining where
  separator : Option Char
  ignoresCase : Bool
  /-- The positions of the key in the lines of both files. -/
  keys : Nat × Nat
  missing : Text
  /-- What is shown: keys or fields of one of the files. -/
  format : Option (List (Option (Bool × Nat)))

/-- A line by its fields. -/
abbrev Row := List Text

/-- The fields of a line. -/
def Joining.fields (j : Joining) (line : Text) : Row :=
  match j.separator with
  | some s => Text.splitOn s line
  | none =>
    (Text.splitOn ' ' (line.map fun c => if Sorting.isBlank c then ' ' else c)).filter
      fun t => !t.isEmpty

/-- The key of a row. -/
def Joining.key (j : Joining) (second : Bool) (r : Row) : Text :=
  let t := (r[if second then j.keys.2 else j.keys.1]?).getD []
  if j.ignoresCase then Text.lowerAscii t else t

/-- What is written for two rows, of which one can be missing. -/
def Joining.written (j : Joining) (a b : Option Row) : Text :=
  let filled (t : Option Text) : Text :=
    match t with
    | none | some [] => j.missing
    | some t => t
  let bare := match a, b with
    | some r, _ => r[j.keys.1]?
    | none, some r => r[j.keys.2]?
    | none, none => none
  let others (second : Bool) (r : Option Row) : List Text :=
    ((r.getD []).zipIdx.filter fun (_, n) =>
      n != (if second then j.keys.2 else j.keys.1)).map fun (t, _) => filled (some t)
  let fields := match j.format with
    | none => filled bare :: (others false a ++ others true b)
    | some l => l.map fun f =>
      match f with
      | none => filled bare
      | some (second, n) => filled ((if second then b else a).bind fun r => r[n]?)
  Text.join [j.separator.getD ' '] fields ++ ['\n']

/-- The rows at the start with the same key, and the others. -/
def Joining.sameKey (j : Joining) (second : Bool) (l : List Row) : List Row × List Row :=
  match l with
  | [] => ([], [])
  | r :: _ => l.span fun other => j.key second other == j.key second r

/-- Joins rows: of each pair with the same key, and alone those whose key the other file lacks. -/
def Joining.join (j : Joining) (aloneA aloneB paired : Bool) :
    Nat → List Row → List Row → List Text → List Text
  | 0, _, _, l => l
  | fuel + 1, a, b, l =>
    let single (second : Bool) (r : Row) (l : List Text) : List Text :=
      if second then if aloneB then j.written none (some r) :: l else l
      else if aloneA then j.written (some r) none :: l else l
    match a, b with
    | [], [] => l
    | r :: rest, [] => j.join aloneA aloneB paired fuel rest [] (single false r l)
    | [], r :: rest => j.join aloneA aloneB paired fuel [] rest (single true r l)
    | r :: restA, s :: restB =>
      match compareText (j.key false r) (j.key true s) with
      | .lt => j.join aloneA aloneB paired fuel restA (s :: restB) (single false r l)
      | .gt => j.join aloneA aloneB paired fuel (r :: restA) restB (single true s l)
      | .eq =>
        let (sameA, a) := j.sameKey false (r :: restA)
        let (sameB, b) := j.sameKey true (s :: restB)
        let pairs := sameA.flatMap fun r => sameB.map fun s => j.written (some r) (some s)
        j.join aloneA aloneB paired fuel a b (if paired then pairs.reverse ++ l else l)

/-- A field of a format. -/
def joinField (t : Text) : Work (Option (Bool × Nat)) :=
  match t with
  | ['0'] => pure none
  | file :: '.' :: n =>
    if file != '1' && file != '2' then
      giveUp ("invalid file number in field spec: ".toList ++ quoted t)
    else
      match Text.toNat? n with
      | some (n + 1) => pure (some (file == '2', n))
      | _ => giveUp ("invalid field number: ".toList ++ quoted n)
  | _ => giveUp ("invalid field specifier: ".toList ++ quoted t)

/-- A number of a field. -/
def joinKey (g : Given) (key : String) : Work (Option Nat) := do
  match g.last? key with
  | none => pure none
  | some t =>
    match Text.toNat? t with
    | some (n + 1) => pure (some n)
    | _ => giveUp ("invalid field number: ".toList ++ quoted t)

/-- The first line that is out of order, with its number. -/
def Joining.disorder? (j : Joining) (second : Bool) : Nat → List Text → Option (Nat × Text)
  | n, a :: b :: rest =>
    if compareText (j.key second (j.fields a)) (j.key second (j.fields b)) == .gt then
      some (n + 1, b)
    else j.disorder? second (n + 1) (b :: rest)
  | _, _ => none

/-- Joins the lines of two sorted files. -/
def join : Program :=
  toolOf usualManner
    [valued '1' "", valued '2' "", valued 'j' "", valued 'a' "", valued 'v' "", valued 'e' "",
      valued 'o' "", valued 't' "", flag 'i' "ignore-case", named "check-order" .nothing,
      named "nocheck-order" .nothing, named "header" .nothing, flag 'z' "zero-terminated"]
    fun g => do
      let both ← joinKey g "j"
      let keyA ← joinKey g "1"
      let keyB ← joinKey g "2"
      let sides := g.all "a" ++ g.all "v"
      match sides.find? fun t => t != ['1'] && t != ['2'] with
      | some t => giveUp ("invalid field number: ".toList ++ quoted t)
      | none => pure ()
      let specs := (g.all "o").flatMap fun t =>
        (Text.splitOn ',' (t.map fun c => if c = ' ' then ',' else c)).filter fun t => !t.isEmpty
      let isAuto := specs == ["auto".toList]
      let format ← if specs.isEmpty || isAuto then pure none
        else do pure (some (← specs.mapM joinField))
      let separator ← match g.last? "t" with
        | none => pure none
        | some [] => pure (some '\n')
        | some [c] => pure (some c)
        | some ['\\', '0'] => pure (some '\x00')
        | some t => giveUp ("multi-character tab ".toList ++ quoted t)
      let (first, second) ← needTwo g.operands
      let j : Joining :=
        ⟨separator, g.has "ignore-case", ((keyA.orElse fun _ => both).getD 0,
          (keyB.orElse fun _ => both).getD 0), (g.last? "e").getD [], format⟩
      let a ← linesOrGiveUp '\n' first
      let b ← linesOrGiveUp '\n' second
      let (headA, bodyA) := if g.has "header" then (a.take 1, a.drop 1) else ([], a)
      let (headB, bodyB) := if g.has "header" then (b.take 1, b.drop 1) else ([], b)
      let widths (r : List Text) : Nat := (r.head?.map fun t => (j.fields t).length).getD 1
      let others (second : Bool) (r : List Text) (key : Nat) : List (Option (Bool × Nat)) :=
        ((List.range (widths r)).filter (· != key)).map fun n => some (second, n)
      let j : Joining :=
        if isAuto then
          { j with format := some (none :: (others false a j.keys.1 ++ others true b j.keys.2)) }
        else j
      if g.has "header" then
        say (j.written (headA.head?.map j.fields) (headB.head?.map j.fields))
      let has (key side : String) : Bool := (g.all key).any fun t => String.ofList t == side
      let rowsA := bodyA.map j.fields
      let rowsB := bodyB.map j.fields
      let written := j.join (has "a" "1" || has "v" "1") (has "a" "2" || has "v" "2")
        (!g.has "v") (a.length + b.length + 1) rowsA rowsB []
      let disorders := if g.has "nocheck-order" then [] else
        [(first, j.disorder? false 1 bodyA), (second, j.disorder? true 1 bodyB)].filterMap
          fun (file, d) => d.map fun (n, t) => (file, n, t)
      let all := rowsA.all fun r => rowsB.any fun s => j.key true s == j.key false r
      let counted := disorders.filter fun _ => g.has "check-order" || !all ||
        rowsB.any fun s => !rowsA.any fun r => j.key false r == j.key true s
      counted.forM fun (file, n, t) =>
        complain 1 (file ++ ":".toList ++ Text.ofNat n ++ ": is not sorted: ".toList ++ t)
      say written.reverse.flatten
      if !counted.isEmpty then giveUp "input is not in sorted order".toList

/-! ### Partial orders -/

/-- The items of a queue in a row, where behind each one those are put into the queue which nothing
    else stands before. What cannot be put in a row is left over. -/
def inRow : Nat → List Text → List (Text × Text) → List Text → List Text × List (Text × Text)
  | 0, _, pairs, row => (row.reverse, pairs)
  | _ + 1, [], pairs, row => (row.reverse, pairs)
  | fuel + 1, item :: queue, pairs, row =>
    let behind := (pairs.filter fun (a, _) => a == item).map Prod.snd
    let left := pairs.filter fun (a, _) => a != item
    let free := behind.eraseDups.filter fun b => !left.any fun (_, c) => c == b
    inRow fuel (queue ++ free) left (item :: row)

/-- Sorts a partial order. -/
def tsort : Program :=
  toolOf usualManner [] fun g => do
    let file ← match g.operands with
      | [] => pure ['-']
      | [file] => pure file
      | _ :: extra :: _ => misuse ("extra operand ".toList ++ quoted extra)
    match ← contents file with
    | .error e => giveUp (faultOf file e)
    | .ok t =>
      let words := (Text.splitOn ' ' (t.map fun c => if Sorting.isBlank c then ' ' else c)).filter
        fun t => !t.isEmpty
      let rec pairsOf : List Text → List (Text × Text)
        | a :: b :: rest => (a, b) :: pairsOf rest
        | _ => []
      if words.length % 2 = 1 then
        giveUp (shown file ++ ": input contains an odd number of tokens".toList)
      let pairs := (pairsOf words).filter fun (a, b) => a != b
      let items := words.eraseDups.mergeSort Text.precedes
      let first := items.filter fun t => !pairs.any fun (_, b) => b == t
      let (row, left) := inRow (items.length + 1) first pairs.reverse []
      let loop := (left.flatMap fun (a, b) => [a, b]).eraseDups.mergeSort Text.precedes
      row.forM sayLine
      if !loop.isEmpty then
        complain 1 (shown file ++ ": input contains a loop:".toList)
        loop.forM mutter
        loop.forM sayLine

end Console.Host.Tool
