import Console.Host.Numeral
import Console.Host.Tool.Work

/-! Tools for parts of lines: the octets or fields at some positions, and lines side by side. -/

namespace Console.Host.Tool

open Work

/-! ### Positions -/

/-- Positions from one on, up to another one or without end. -/
structure Positions where
  low : Nat
  high : Option Nat
  deriving DecidableEq, Repr

/-- Whether a position is one of them. -/
def Positions.contains (p : Positions) (n : Nat) : Bool := p.low ≤ n && p.high.all fun h => n ≤ h

/-- The wording of what is wrong with a list of positions. -/
structure PositionWords where
  zero : String
  value : String
  tooLarge : String
  range : String

/-- The words for fields. -/
def fieldWords : PositionWords :=
  ⟨"fields are numbered from 1", "invalid field value ", "field number ", "invalid field range"⟩

/-- The words for octets. -/
def octetWords : PositionWords :=
  ⟨"byte/character positions are numbered from 1", "invalid byte/character position ",
    "byte/character offset ", "invalid byte or character range"⟩

/-- The positions of one part of a list. -/
def positions (w : PositionWords) (t : Text) : Except Text Positions :=
  let low := t.takeWhile Char.isDigit
  let rest := t.drop low.length
  let large (digits : Text) : Option Text :=
    if Numeral.value 10 0 digits ≥ Word.limit - 1 then
      some (w.tooLarge.toList ++ quoted digits ++ " is too large".toList)
    else none
  let isZero := !low.isEmpty && Numeral.value 10 0 low == 0
  match large low, rest with
  | some e, _ => .error e
  | none, [] =>
    if low.isEmpty || isZero then .error w.zero.toList
    else .ok ⟨Numeral.value 10 0 low, some (Numeral.value 10 0 low)⟩
  | none, '-' :: behind =>
    let high := behind.takeWhile Char.isDigit
    let first := if low.isEmpty then 1 else Numeral.value 10 0 low
    match behind.drop high.length with
    | [] =>
      if isZero then .error w.zero.toList
      else if high.isEmpty then
        if low.isEmpty then .error "invalid range with no endpoint: -".toList else .ok ⟨first, none⟩
      else
        let last := Numeral.value 10 0 high
        if last < first then .error "invalid decreasing range".toList else .ok ⟨first, some last⟩
    | '-' :: _ => .error w.range.toList
    | rest => .error (w.value.toList ++ quoted rest)
  | none, rest => .error (w.value.toList ++ quoted rest)

/-- Positions in the order in which they begin. -/
def sorted (l : List Positions) : List Positions := l.mergeSort fun a b => a.low ≤ b.low

/-- Sorted positions of which those that overlap are joined. -/
def joined : List Positions → List Positions
  | [] => []
  | p :: rest =>
    match joined rest with
    | [] => [p]
    | q :: rest =>
      if p.high.all fun h => q.low ≤ h then
        let high := match p.high, q.high with
          | some a, some b => some (max a b)
          | _, _ => none
        ⟨p.low, high⟩ :: rest
      else p :: q :: rest

/-- All other positions from a number on. -/
def complement (from_ : Nat) : List Positions → List Positions
  | [] => [⟨from_, none⟩]
  | p :: rest =>
    let front : List Positions := if from_ < p.low then [⟨from_, some (p.low - 1)⟩] else []
    match p.high with
    | none => front
    | some h => front ++ complement (h + 1) rest

/-- The positions of a list. -/
def positionList (w : PositionWords) (t : Text) : Except Text (List Positions) := do
  let parts := Text.splitOn ',' (t.map fun c => if c = ' ' || c = '\t' then ',' else c)
  pure (joined (sorted (← parts.mapM (positions w))))

/-! ### Parts of lines -/

/-- What is cut out of lines. -/
structure Cutting where
  positions : List Positions
  /-- The character between fields; none if octets are cut. -/
  delimiter : Option Char
  /-- What stands between the parts that are written. -/
  between : Text
  /-- Whether lines without a delimiter are left out. -/
  onlyDelimited : Bool

/-- What is cut out of a line. -/
def Cutting.cut (k : Cutting) (line : Text) : Option Text :=
  match k.delimiter with
  | none =>
    let parts := k.positions.map fun p =>
      let rest := line.drop (p.low - 1)
      match p.high with
      | none => rest
      | some h => rest.take (h + 1 - p.low)
    some (Text.join k.between (parts.filter fun t => !t.isEmpty))
  | some d =>
    if !line.elem d then if k.onlyDelimited then none else some line
    else
      let fields := (Text.splitOn d line).zipIdx 1
      let wanted := fields.filter fun (_, n) => k.positions.any fun p => p.contains n
      some (Text.join k.between (wanted.map Prod.fst))

/-- Cuts parts out of lines. -/
def cut : Program :=
  toolOf usualManner
    [valued 'b' "bytes", valued 'c' "characters", valued 'd' "delimiter", valued 'f' "fields",
      flag 'n' "", named "output-delimiter" .value, flag 's' "only-delimited",
      named "complement" .nothing, flag 'z' "zero-terminated"]
    fun g => do
      let lists := g.options.filter fun (k, _) => ["bytes", "characters", "fields"].contains k
      let delimiter ← match g.last? "delimiter" with
        | none => pure '\t'
        | some [] => pure '\x00'
        | some [c] => pure c
        | some _ => misuse "the delimiter must be a single character".toList
      match lists with
      | [] => misuse "you must specify a list of bytes, characters, or fields".toList
      | _ :: _ :: _ => misuse "only one list may be specified".toList
      | [(kind, t)] =>
        let ofFields := kind == "fields"
        if !ofFields && g.has "delimiter" then
          misuse "an input delimiter may be specified only when operating on fields".toList
        if !ofFields && g.has "only-delimited" then
          misuse ("suppressing non-delimited lines makes sense\n" ++
            "\tonly when operating on fields").toList
        match positionList (if ofFields then fieldWords else octetWords) t with
        | .error e => misuse e
        | .ok l =>
          let l := if g.has "complement" then complement 1 l else l
          let k : Cutting :=
            { positions := l
              delimiter := if ofFields then some delimiter else none
              between := (g.last? "output-delimiter").getD (if ofFields then [delimiter] else [])
              onlyDelimited := g.has "only-delimited" }
          let ending := if g.has "zero-terminated" then '\x00' else '\n'
          let lines : Lines Unit :=
            ⟨ending, fun _ line _ => ((), ((k.cut line).map (· ++ [ending])).getD []),
              fun _ => false⟩
          foldFiles (feedLines lines) () (filesOf g)

/-! ### Lines side by side -/

/-- The delimiters that a list stands for, where none is the empty one; nothing if it ends with a
    backslash. -/
def delimiters? : Text → Option (List Text)
  | [] => some []
  | ['\\'] => none
  | '\\' :: c :: rest => do
    let l ← delimiters? rest
    match c with
    | '0' => pure ([] :: l)
    | 'n' => pure (['\n'] :: l)
    | 't' => pure (['\t'] :: l)
    | 'b' => pure (['\x08'] :: l)
    | 'f' => pure (['\x0c'] :: l)
    | 'r' => pure (['\r'] :: l)
    | 'v' => pure (['\x0b'] :: l)
    | c => pure ([c] :: l)
  | c :: rest => (delimiters? rest).map ([c] :: ·)

/-- Lines joined by delimiters, which are used in turn. -/
def joinInTurn (delimiters : Array Text) : Nat → List Text → Text
  | _, [] => []
  | _, [t] => t
  | n, t :: rest =>
    t ++ (delimiters[n % delimiters.size]?).getD [] ++ joinInTurn delimiters (n + 1) rest

/-- The lines of files side by side: a line of every file until all have ended. A file is its
    number, and the input of the tool can be several of the files. -/
def sideBySide (delimiters : Array Text) (ending : Char) :
    Nat → List Nat → List (Nat × List Text) → List Text → List Text
  | 0, _, _, written => written
  | fuel + 1, files, inputs, written =>
    let take := fun ((l, inputs) : List (Option Text) × List (Nat × List Text)) (n : Nat) =>
      match inputs.lookup n with
      | some (t :: rest) =>
        (some t :: l, inputs.map fun (m, ts) => if m == n then (m, rest) else (m, ts))
      | _ => (none :: l, inputs)
    let (row, inputs) := files.foldl take ([], inputs)
    if row.all Option.isNone then written
    else
      let line := joinInTurn delimiters 0 (row.reverse.map fun t => t.getD []) ++ [ending]
      sideBySide delimiters ending fuel files inputs (line :: written)

/-- The lines of a text, without what ends them. -/
def linesBy (ending : Char) (t : Text) : List Text :=
  match (Text.splitOn ending t).reverse with
  | [] :: rest => rest.reverse
  | l => l.reverse

/-- Puts lines side by side. -/
def paste : Program :=
  toolOf usualManner
    [valued 'd' "delimiters", flag 's' "serial", flag 'z' "zero-terminated"] fun g => do
    let list := (g.last? "delimiters").getD ['\t']
    match delimiters? list with
    | none =>
      giveUp ("delimiter list ends with an unescaped backslash: ".toList ++ shown list)
    | some delimiters =>
      let delimiters := if delimiters.isEmpty then #[[]] else delimiters.toArray
      let ending := if g.has "zero-terminated" then '\x00' else '\n'
      let files := filesOf g
      let names := files.eraseDups
      if g.has "serial" then
        files.forM fun file => do
          match ← contents file with
          | .error e => complain 1 (faultOf file e)
          | .ok t => say (joinInTurn delimiters 0 (linesBy ending t) ++ [ending])
      else
        let inputs ← names.zipIdx.mapM fun (file, n) => do
          match ← contents file with
          | .error e => giveUp (faultOf file e)
          | .ok t => pure (n, linesBy ending t)
        let numbers := files.map fun file => names.findIdx (· == file)
        let isInput (n : Nat) : Bool := names[n]? == some ['-']
        let separate := numbers.zipIdx.map fun (n, i) => if isInput n then n else names.length + i
        let copies := (numbers.zip separate).filterMap fun (n, m) =>
          (inputs.lookup n).map fun l => (m, l)
        let longest := copies.foldl (fun k (_, l) => k + l.length) 1
        say (sideBySide delimiters ending longest separate copies []).reverse.flatten

end Console.Host.Tool
