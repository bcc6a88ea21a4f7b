import Console.Host.Numeral
import Console.Host.Tool.Cut
import Console.Host.Tool.Version

/-! Sorting of lines by keys: parts of lines that are compared as texts or as numbers of several
    kinds. Lines whose keys are the same are compared as a whole. -/

namespace Console.Host.Tool

open Work

namespace Sorting

/-- What keys are compared as. -/
inductive Kind where
  | text
  | number
  | general
  | human
  | month
  | version
  | random
  deriving DecidableEq, Repr

/-- How keys are compared. -/
structure Rule where
  kind : Kind
  /-- Whether blanks at the start and at the end of a key do not belong to it. -/
  skipsAtStart : Bool
  skipsAtEnd : Bool
  /-- Whether only blanks, letters and digits count. -/
  dictionary : Bool
  folds : Bool
  onlyPrintable : Bool
  reverses : Bool
  deriving DecidableEq, Repr

/-- The rule that says nothing. -/
def plainRule : Rule := ⟨.text, false, false, false, false, false, false⟩

/-- A key: the field and the character at which it starts, those at which it ends, and its rule. -/
structure Key where
  field : Nat
  offset : Nat
  /-- The number of whole fields and the characters behind them. -/
  end_ : Option (Nat × Nat)
  rule : Rule

/-- The rule with one more letter. -/
def Rule.with_ (r : Rule) (atStart atEnd : Bool) (letter : Char) : Option Rule :=
  match letter with
  | 'b' => some { r with
      skipsAtStart := r.skipsAtStart || atStart, skipsAtEnd := r.skipsAtEnd || atEnd }
  | 'd' => some { r with dictionary := true }
  | 'f' => some { r with folds := true }
  | 'g' => some { r with kind := .general }
  | 'h' => some { r with kind := .human }
  | 'i' => some { r with onlyPrintable := true }
  | 'M' => some { r with kind := .month }
  | 'n' => some { r with kind := .number }
  | 'R' => some { r with kind := .random }
  | 'r' => some { r with reverses := true }
  | 'V' => some { r with kind := .version }
  | _ => none

/-- The rule with the letters at the start of a text, and what follows them. -/
def Rule.letters (atStart atEnd : Bool) : Rule → Text → Rule × Text
  | r, [] => (r, [])
  | r, c :: rest =>
    match r.with_ atStart atEnd c with
    | some r => Rule.letters atStart atEnd r rest
    | none => (r, c :: rest)

/-- A count in the description of a key. -/
def count (words : String) (t : Text) : Except Text (Nat × Text) :=
  let digits := t.takeWhile Char.isDigit
  if digits.isEmpty then
    .error (words.toList ++ ": invalid count at start of ".toList ++ quoted t)
  else .ok (min (Numeral.value 10 0 digits) Word.limit, t.drop digits.length)

/-- A key as it is described. -/
def key? (t : Text) : Except Text Key := do
  let bad (why : String) : Text :=
    why.toList ++ ": invalid field specification ".toList ++ quoted t
  let (field, rest) ← count "invalid number at field start" t
  if field = 0 then throw (bad "field number is zero")
  let (offset, rest) ← match rest with
    | '.' :: rest => do
      let (n, rest) ← count "invalid number after '.'" rest
      if n = 0 then throw (bad "character offset is zero")
      pure (n - 1, rest)
    | rest => pure (0, rest)
  let (rule, rest) := Rule.letters true false plainRule rest
  match rest with
  | [] => pure ⟨field - 1, offset, none, rule⟩
  | ',' :: rest => do
    let (last, rest) ← count "invalid number after ','" rest
    if last = 0 then throw (bad "field number is zero")
    let (behind, rest) ← match rest with
      | '.' :: rest => count "invalid number after '.'" rest
      | rest => pure (0, rest)
    let (rule, rest) := Rule.letters false true rule rest
    if !rest.isEmpty then throw (bad "stray character in field spec")
    let end_ := if behind = 0 then (last, 0) else (last - 1, behind)
    pure ⟨field - 1, offset, some end_, rule⟩
  | _ => throw (bad "stray character in field spec")

/-- Whether a character separates fields if no other one does. -/
def isBlank (c : Char) : Bool := c == ' ' || c == '\t' || c == '\n'

/-- What is left behind so many fields. With a separator, the one behind the last field is kept if
    nothing of a further field is wanted. -/
def dropFields (separator : Option Char) (keepsLast : Bool) : Nat → Text → Text
  | 0, t => t
  | n + 1, t =>
    match separator with
    | none =>
      let t := t.dropWhile isBlank
      dropFields separator keepsLast n (t.dropWhile fun c => !isBlank c)
    | some s =>
      let t := t.dropWhile (· != s)
      if n = 0 && keepsLast then t else dropFields separator keepsLast n (t.drop 1)

/-- The part of a line that is a key. -/
def Key.part (k : Key) (separator : Option Char) (line : Text) : Text :=
  let start := dropFields separator false k.field line
  let start := if k.rule.skipsAtStart then start.dropWhile isBlank else start
  let start := start.drop k.offset
  match k.end_ with
  | none => start
  | some (fields, behind) =>
    let rest := dropFields separator (behind == 0) fields line
    let rest :=
      if behind = 0 then rest
      else
        let rest := if k.rule.skipsAtEnd then rest.dropWhile isBlank else rest
        rest.drop behind
    start.take (start.length - rest.length)

/-! ### Values of keys -/

/-- A number as it is written: its sign, its digits without zeros in front, and its decimal places
    without zeros behind. -/
structure Decimal where
  negative : Bool
  whole : Text
  places : Text
  deriving DecidableEq, Repr

/-- The number at the start of a text, and what follows it. -/
def decimal (t : Text) : Decimal × Text :=
  let t := t.dropWhile isBlank
  let (negative, t) : Bool × Text := match t with
    | '-' :: rest => (true, rest)
    | t => (false, t)
  let digits := t.takeWhile Char.isDigit
  let rest := t.drop digits.length
  let (places, rest) : Text × Text := match rest with
    | '.' :: rest => (rest.takeWhile Char.isDigit, rest.dropWhile Char.isDigit)
    | rest => ([], rest)
  let whole := digits.dropWhile (· == '0')
  let places := (places.reverse.dropWhile (· == '0')).reverse
  (⟨negative && !(whole.isEmpty && places.isEmpty), whole, places⟩, rest)

/-- The order of two numbers. -/
def Decimal.order (a b : Decimal) : Ordering :=
  let sizes (a b : Decimal) : Ordering :=
    ((compare a.whole.length b.whole.length).then (compareText a.whole b.whole)).then
      (compareText a.places b.places)
  match a.negative, b.negative with
  | false, false => sizes a b
  | true, true => sizes b a
  | true, false => .lt
  | false, true => .gt

/-- The rank of a unit letter behind a number. -/
def unitRank (t : Text) : Nat :=
  match t with
  | 'k' :: _ | 'K' :: _ => 1
  | c :: _ =>
    match "MGTPEZYRQ".toList.findIdx? (· == c) with
    | some n => n + 2
    | none => 0
  | [] => 0

/-- The rank of the name of a month; other texts come before all of them. -/
def monthRank (t : Text) : Nat :=
  let name := ((t.dropWhile isBlank).take 3).map Char.toUpper
  let names := ["JAN", "FEB", "MAR", "APR", "MAY", "JUN", "JUL", "AUG", "SEP", "OCT", "NOV", "DEC"]
  match names.findIdx? fun n => n.toList == name with
  | some n => n + 1
  | none => 0

/-- The order of two numbers with points and exponents. What is no number comes first. -/
def compareReal (s t : Text) : Ordering :=
  let rank (x : Option Binary64.Parts) : Nat :=
    match x with
    | none => 0
    | some .nan => 1
    | some (.infinite true) => 2
    | some (.finite _ _ _) => 3
    | some (.infinite false) => 4
  let a := (Numeral.real? .extended s).map Prod.fst
  let b := (Numeral.real? .extended t).map Prod.fst
  match a, b with
  | some (.finite na ma ea), some (.finite nb mb eb) =>
    let low := min ea eb
    let value (negative : Bool) (m : Nat) (e : Int) : Int :=
      let n : Int := m * twoTo (e - low).toNat
      if negative then -n else n
    compare (value na ma ea) (value nb mb eb)
  | a, b => compare (rank a) (rank b)

/-- A key with only the characters that count, in the form in which they count. -/
def Rule.reduced (r : Rule) (t : Text) : Text :=
  let t := if r.dictionary then t.filter fun c => isBlank c || c.isAlphanum else t
  let t := if r.onlyPrintable then t.filter isPrintable else t
  if r.folds then t.map Char.toUpper else t

/-- The order of two keys. -/
def Rule.order (r : Rule) (s t : Text) : Ordering :=
  let o := match r.kind with
    | .text | .random => compareText (r.reduced s) (r.reduced t)
    | .number => (decimal s).1.order (decimal t).1
    | .general => compareReal s t
    | .human =>
      let (a, u) := decimal s
      let (b, v) := decimal t
      let signed (d : Decimal) (u : Text) : Int :=
        if d.negative then -(unitRank u : Int) - 1
        else if d.whole.isEmpty && d.places.isEmpty then 0
        else unitRank u + 1
      (compare (signed a u) (signed b v)).then (a.order b)
    | .month => compare (monthRank s) (monthRank t)
    | .version => compareNames s t
  if r.reverses then o.swap else o

/-- How lines are sorted. -/
structure Plan where
  keys : List Key
  separator : Option Char
  /-- Whether lines with the same keys count as the same. -/
  keysOnly : Bool
  reverses : Bool

/-- A line with its keys. -/
structure Item where
  line : Text
  parts : List Text

/-- A line with its keys, found out. -/
def Plan.item (s : Plan) (line : Text) : Item :=
  ⟨line, s.keys.map fun k => k.part s.separator line⟩

/-- The order by keys. -/
def compareParts : List Key → List Text → List Text → Ordering
  | k :: keys, s :: ss, t :: ts => (k.rule.order s t).then (compareParts keys ss ts)
  | _, _, _ => .eq

/-- The order of two lines. -/
def Plan.order (s : Plan) (a b : Item) : Ordering :=
  (compareParts s.keys a.parts b.parts).then
    (if s.keysOnly && !s.keys.isEmpty then .eq
      else
        let o := compareText a.line b.line
        if s.reverses then o.swap else o)

/-- Leaves out lines that are the same as the ones before them. -/
def Plan.distinct (s : Plan) : List Item → List Item
  | a :: b :: rest =>
    if s.order a b == .eq then s.distinct (a :: rest) else a :: s.distinct (b :: rest)
  | l => l
termination_by l => l.length

/-- Merges sorted files: always the first of the lines that come first. -/
def Plan.merge (s : Plan) : Nat → List (List Item) → List Item → List Item
  | 0, _, done => done.reverse
  | fuel + 1, files, done =>
    let heads := files.zipIdx.filterMap fun (l, n) => l.head?.map fun item => (item, n)
    match heads with
    | [] => done.reverse
    | first :: rest =>
      let (item, n) := rest.foldl (fun best other =>
        if s.order other.1 best.1 == .lt then other else best) first
      s.merge fuel (files.modify n (List.drop 1)) (item :: done)

/-- The first line that is not in order, with its number. -/
def Plan.disorder? (s : Plan) (strict : Bool) : Nat → List Item → Option (Nat × Text)
  | n, a :: b :: rest =>
    let o := s.order a b
    if o == .gt || strict && o == .eq then some (n + 1, b.line)
    else s.disorder? strict (n + 1) (b :: rest)
  | _, _ => none

/-- An old form of a key: fields and characters counted from zero behind a plus sign. -/
def oldKeys : List Text → List Text
  | ('+' :: t) :: ('-' :: e) :: rest =>
    if t.head?.any Char.isDigit && e.head?.any Char.isDigit then
      (oldStart t ++ [','] ++ oldEnd e) :: oldKeys rest
    else ('+' :: t) :: oldKeys (('-' :: e) :: rest)
  | ('+' :: t) :: rest =>
    if t.head?.any Char.isDigit then ('-' :: 'k' :: oldStart t) :: oldKeys rest
    else ('+' :: t) :: oldKeys rest
  | t :: rest => t :: oldKeys rest
  | [] => []
where
  /-- A count that is one higher. -/
  raised (t : Text) : Text :=
    let digits := t.takeWhile Char.isDigit
    Text.ofNat (Numeral.value 10 0 digits + 1) ++ t.drop digits.length
  /-- The start of a key. -/
  oldStart (t : Text) : Text :=
    let digits := t.takeWhile Char.isDigit
    match t.drop digits.length with
    | '.' :: rest => Text.ofNat (Numeral.value 10 0 digits + 1) ++ '.' :: raised rest
    | rest => Text.ofNat (Numeral.value 10 0 digits + 1) ++ rest
  /-- The end of a key. -/
  oldEnd (t : Text) : Text :=
    let digits := t.takeWhile Char.isDigit
    match t.drop digits.length with
    | '.' :: rest =>
      if rest.head? = some '0' then digits ++ rest.drop 1
      else Text.ofNat (Numeral.value 10 0 digits + 1) ++ '.' :: rest
    | rest => digits ++ rest

/-- The letters of options that are rules. -/
def ruleNames : List (String × Char) :=
  [("ignore-leading-blanks", 'b'), ("dictionary-order", 'd'), ("ignore-case", 'f'),
    ("general-numeric-sort", 'g'), ("human-numeric-sort", 'h'), ("ignore-nonprinting", 'i'),
    ("month-sort", 'M'), ("numeric-sort", 'n'), ("random-sort", 'R'), ("reverse", 'r'),
    ("version-sort", 'V')]

/-- The letters of the kinds among options, if there are several of them. -/
def clash? (letters : List Char) : Option Text :=
  let kinds := "ghMnRV".toList.filter letters.contains
  let shown := "bdfghinMRrV".toList.filter fun c =>
    letters.contains c && ("ghMnRV".toList.contains c || "di".toList.contains c)
  let isTextual := letters.contains 'd' || letters.contains 'i'
  let strict := kinds.filter fun c => c != 'R' && c != 'V'
  if kinds.length > 1 || isTextual && !strict.isEmpty then some shown else none

/-- What is sorted how, from the options. -/
def planOf (g : Given) : Work Plan := do
  let letters := g.options.filterMap fun (k, _) => ruleNames.lookup k
  let rule := letters.foldl (fun r c => (r.with_ true true c).getD r) plainRule
  match clash? letters with
  | some l => giveUp ("options '-".toList ++ l ++ "' are incompatible".toList)
  | none => pure ()
  let separator ← match g.last? "field-separator" with
    | none => pure none
    | some [] => giveUp "empty tab".toList
    | some [c] => pure (some c)
    | some ['\\', '0'] => pure (some '\x00')
    | some t => giveUp ("multi-character tab ".toList ++ quoted t)
  let keys ← (g.all "key").mapM fun t =>
    match key? t with
    | .ok k => pure k
    | .error e => giveUp e
  let keys := keys.map fun k => if k.rule == plainRule then { k with rule := rule } else k
  let isPlain := { rule with reverses := false } == plainRule
  let keys := if keys.isEmpty && !isPlain then [⟨0, 0, none, rule⟩] else keys
  pure ⟨keys, separator, g.has "stable" || g.has "unique", rule.reverses⟩

/-- The options of sorting. -/
def switches : List Switch :=
  [flag 'b' "ignore-leading-blanks", flag 'c' "check-order", named "check" .maybe,
    flag 'C' "check-silent", flag 'd' "dictionary-order", flag 'f' "ignore-case",
    flag 'g' "general-numeric-sort", flag 'h' "human-numeric-sort", flag 'i' "ignore-nonprinting",
    valued 'k' "key", flag 'm' "merge", flag 'M' "month-sort", flag 'n' "numeric-sort",
    valued 'o' "output", flag 'R' "random-sort", flag 'r' "reverse", flag 's' "stable",
    valued 'S' "buffer-size", valued 't' "field-separator", valued 'T' "temporary-directory",
    flag 'u' "unique", flag 'V' "version-sort", flag 'z' "zero-terminated",
    named "sort" .value, named "parallel" .value, named "batch-size" .value,
    named "debug" .nothing, named "files0-from" .value, named "random-source" .value,
    named "compress-program" .value]

/-- The lines of a file; without them there is nothing to be sorted. -/
def inputLines (ending : Char) (file : Text) : Work (List Text) := do
  match ← openInput file with
  | .error e => giveUp ("cannot read: ".toList ++ shown file ++ ": ".toList ++ e.wording)
  | .ok d =>
    match ← readAll d with
    | .error e => giveUp ("read failed: ".toList ++ shown file ++ ": ".toList ++ e.wording)
    | .ok t =>
      closeInput d
      pure (linesBy ending t)

/-- Says whether a file is sorted. -/
def check (s : Plan) (g : Given) (ending : Char) : Work Unit := do
  let file ← match g.operands with
    | [] => pure ['-']
    | [file] => pure file
    | _ :: extra :: _ =>
      giveUp ("extra operand ".toList ++ quotedName extra ++ " not allowed with -".toList ++
        (if g.has "check-silent" then ['C'] else ['c']))
  let lines ← inputLines ending file
  match s.disorder? (g.has "unique") 1 (lines.map s.item) with
  | none => pure ()
  | some (n, line) =>
    let isSilent := g.has "check-silent" ||
      (g.all "check").any fun t => t == "silent".toList || t == "quiet".toList
    if !isSilent then
      mutter (file ++ ":".toList ++ Text.ofNat n ++ ": disorder: ".toList ++ line)
    stop 1

/-- The arguments in which the names of kinds stand for options. -/
def withKinds (g : Given) : Given :=
  let names := [("general-numeric", "general-numeric-sort"),
    ("human-numeric", "human-numeric-sort"), ("month", "month-sort"), ("numeric", "numeric-sort"),
    ("random", "random-sort"), ("version", "version-sort")]
  { g with options := g.options.map fun (k, v) =>
      if k == "sort" then ((names.lookup (String.ofList v)).getD k, []) else (k, v) }

end Sorting

open Sorting

/-- Sorts lines. -/
def sort : Program :=
  tool (mannerOf 2) fun arguments => do
    match (Grammar.usual switches).read (oldKeys arguments) with
    | .error e => misuse e
    | .ok g =>
      let g := withKinds g
      let s ← planOf g
      let ending := if g.has "zero-terminated" then '\x00' else '\n'
      if g.has "check-order" || g.has "check-silent" || g.has "check" then check s g ending
      else
        let files := filesOf g
        let inputs ← files.mapM (inputLines ending)
        let items := inputs.map fun l => l.map s.item
        let sorted :=
          if g.has "merge" then s.merge (items.foldl (fun n l => n + l.length) 1) items []
          else items.flatten.mergeSort fun a b => s.order a b != .gt
        let sorted := if g.has "unique" then s.distinct sorted else sorted
        let written := sorted.flatMap fun item => item.line ++ [ending]
        match g.last? "output" with
        | none => say written
        | some file =>
          match ← step (Prog.open_ 3 file .writing Prog.openMode) with
          | .error e =>
            giveUp ("open failed: ".toList ++ shown file ++ ": ".toList ++ e.wording)
          | .ok d =>
            match ← step (Prog.write d written) with
            | .ok () => pure ()
            | .error e => giveUp ("write failed: ".toList ++ shown file ++ ": ".toList ++ e.wording)

end Console.Host.Tool
