import Console.Host.Tool.Sed.Script

/-! Reading of scripts of the stream editor, character by character, so that it can be told where
    something is wrong. A text of a command can go on in the next piece of a script. -/

namespace Console.Host.Tool.Sed

/-- Where a piece of a script comes from. -/
inductive Origin where
  | argument (n : Nat)
  | file (name : Text)
  deriving DecidableEq, Repr

/-- Where something stands in a script. -/
structure Spot where
  origin : Origin
  /-- How many characters have been read. -/
  place : Nat
  line : Nat

/-- What is read of a script. -/
structure Reading where
  spot : Spot
  rest : Text
  commands : Array Command
  labels : List (Text × Nat)
  outputs : List Text
  /-- The blocks that are open, the last one first, with where they begin. -/
  blocks : List (Nat × Spot)
  isQuiet : Bool
  isExtended : Bool
  isSandboxed : Bool
  /-- Whether the last command has a text that goes on in the next piece. -/
  isPending : Bool

/-- Why a script cannot be used, with the status of the editor. -/
structure Refusal where
  message : Text
  status : Nat

/-- Reads a script. -/
abbrev Reader (α : Type) := StateT Reading (Except Refusal) α

/-- What is wrong at a place. -/
def Spot.refusal (s : Spot) (isUnplaced : Bool) (t : Text) : Refusal :=
  let lead := match s.origin with
    | .argument n => "-e expression #".toList ++ Text.ofNat n ++ ", char ".toList ++
        Text.ofNat (if isUnplaced then 0 else s.place)
    | .file name => "file ".toList ++ name ++ " line ".toList ++ Text.ofNat s.line
  ⟨lead ++ ": ".toList ++ t, 1⟩

/-- Refuses the script at the place that has been reached. -/
def refuse {α : Type} (s : String) : Reader α := do
  throw ((← get).spot.refusal false s.toList)

/-! ### Characters -/

/-- Takes a character, if there is one. -/
def char? : Reader (Option Char) := do
  let r ← get
  match r.rest with
  | [] => pure none
  | c :: rest =>
    let line := if c = '\n' then r.spot.line + 1 else r.spot.line
    set { r with rest := rest, spot := { r.spot with place := r.spot.place + 1, line := line } }
    pure (some c)

/-- Gives a character back. -/
def giveBack (c : Option Char) : Reader Unit := do
  match c with
  | none => pure ()
  | some c =>
    modify fun r =>
      let line := if c = '\n' then r.spot.line - 1 else r.spot.line
      { r with
        rest := c :: r.rest, spot := { r.spot with place := r.spot.place - 1, line := line } }

/-- Whether a character is a blank. -/
def isBlank (c : Char) : Bool := c == ' ' || c == '\t'

/-- Takes characters as long as they pass a check. -/
def takeWhile (p : Char → Bool) : Reader Text := do
  let r ← get
  let t := r.rest.takeWhile p
  let lines := (t.filter (· == '\n')).length
  set { r with
    rest := r.rest.drop t.length
    spot := { r.spot with place := r.spot.place + t.length, line := r.spot.line + lines } }
  pure t

/-- Takes the next character that is no blank. -/
def solid? : Reader (Option Char) := do
  let _ ← takeWhile isBlank
  char?

/-- Takes the digits of a number. Without digits it is zero. -/
def number : Reader Nat := do
  let _ ← takeWhile isBlank
  pure (Numeral.value 10 0 (← takeWhile Char.isDigit))

/-- Takes the end of a command. -/
def commandEnd : Reader Unit := do
  match ← solid? with
  | none | some '\n' | some ';' => pure ()
  | some c =>
    if c = '\x7d' || c = '#' then giveBack (some c)
    else refuse "extra characters after command"

/-- Where a character of an expression stands: in no set of characters, at the beginning of one, in
    one, or in a name in one between two signs. -/
inductive SetPlace where
  | outside
  | beginning
  | inside
  | name (sign : Char)

/-- Where the next character stands. -/
def SetPlace.next (p : SetPlace) (before : Option Char) (c : Char) (after : Option Char) :
    SetPlace :=
  let inSet : SetPlace :=
    if c = ']' then .outside
    else if c = '[' && (after = some ':' || after = some '.' || after = some '=') then
      .name (after.getD ':')
    else .inside
  match p with
  | .outside => if c = '[' then .beginning else .outside
  | .beginning =>
    if c = '^' && before = some '[' then .beginning else if c = ']' then .inside else inSet
  | .inside => inSet
  | .name sign => if c = ']' && before = some sign then .inside else .name sign

/-- Whether a character stands in a set of characters. -/
def SetPlace.isInSet (p : SetPlace) : Bool :=
  match p with
  | .outside => false
  | _ => true

/-- Takes text up to a delimiter. In an expression an `n` behind a backslash is a newline, and no
    delimiter stands in a set of characters. -/
def delimitedFrom (delimiter : Char) (isExpression : Bool) :
    Nat → SetPlace → Text → Reader (Option Text)
  | 0, _, _ => pure none
  | fuel + 1, place, done => do
    match ← char? with
    | none => pure none
    | some c =>
      if c = '\n' then
        giveBack (some c)
        pure none
      else if c = delimiter && !place.isInSet then pure (some done.reverse)
      else
        let after := (← get).rest.head?
        if c = '\\' && !(place.isInSet && after != some 'n') then
          match ← char? with
          | none => pure none
          | some d =>
            let keeps := d != '\n' && (d != delimiter || (!isExpression && d == '&'))
            let place := if place.isInSet then .inside else .outside
            if d = 'n' && isExpression then
              delimitedFrom delimiter isExpression fuel place ('\n' :: done)
            else
              delimitedFrom delimiter isExpression fuel place
                (if keeps then d :: '\\' :: done else d :: done)
        else
          let place := if isExpression then place.next done.head? c after else .outside
          delimitedFrom delimiter isExpression fuel place (c :: done)

/-- Takes text up to a delimiter, or refuses the script. -/
def delimited (delimiter : Char) (isExpression : Bool) (message : String) : Reader Text := do
  match ← delimitedFrom delimiter isExpression ((← get).rest.length + 1) .outside [] with
  | some t => pure t
  | none => refuse message

/-! ### Expressions and addresses -/

/-- Makes a matcher of an expression. Without an expression the one is meant that was used last. -/
def compiled (t : Text) (ignoresCase isMultiline : Bool) : Reader (Option Regex.Matcher) := do
  if t.isEmpty then
    if ignoresCase || isMultiline then refuse "cannot specify modifiers on empty regexp"
    else pure none
  else
    let d : Regex.Dialect := ⟨(← get).isExtended, ignoresCase, true, true⟩
    match Regex.compile d isMultiline (expressionText (t.length + 1) t) with
    | .ok m => pure (some m)
    | .error e => refuse e.message

/-- Takes the letters behind an expression of an address. -/
def addressFlags : Nat → Bool → Bool → Reader (Bool × Bool)
  | 0, i, m => pure (i, m)
  | fuel + 1, i, m => do
    match ← solid? with
    | some 'I' => addressFlags fuel true m
    | some 'M' => addressFlags fuel i true
    | c =>
      giveBack c
      pure (i, m)

/-- What an address is read as, which the first or the second one cannot be. -/
inductive AddressReading where
  | address (a : Address)
  | count (n : Nat)
  | multiple (n : Nat)

/-- Takes an address that begins with a character, if there is one. -/
def address? (c : Option Char) : Reader (Option AddressReading) := do
  match c with
  | none => pure none
  | some c =>
    if c = '/' || c = '\\' then
      let delimiter ← if c = '/' then pure c else do pure ((← char?).getD '\\')
      let t ← delimited delimiter true "unterminated address regex"
      let (i, m) ← addressFlags ((← get).rest.length + 1) false false
      pure (some (.address (.matched (← compiled t i m))))
    else if c.isDigit then
      giveBack (some c)
      let n ← number
      match ← solid? with
      | some '~' =>
        let step ← number
        pure (some (.address (if step > 0 then .step n step else .line n)))
      | d =>
        giveBack d
        pure (some (.address (.line n)))
    else if c = '+' then do pure (some (.count (← number)))
    else if c = '~' then do pure (some (.multiple (← number)))
    else if c = '$' then pure (some (.address .last))
    else pure none

/-- Whether an address is line zero. -/
def isZero (a : Option Address) : Bool :=
  match a with
  | some (.line 0) => true
  | _ => false

/-- Takes the addresses in front of a command, and the character behind them. -/
def selection (c : Option Char) : Reader (Selection × Option Char) := do
  let (first, limit, c) : Option Address × Option Limit × Option Char ← match ← address? c with
    | none => pure (none, none, c)
    | some (.count _) | some (.multiple _) =>
      refuse "invalid usage of +N or ~N as first address"
    | some (.address a) => do
      match ← solid? with
      | some ',' =>
        let limit : Limit ← match ← address? (← solid?) with
          | none => refuse "unexpected \x60,'"
          | some (.count n) => pure (.count n)
          | some (.multiple n) => pure (.multiple n)
          | some (.address (.line n)) => pure (.line n)
          | some (.address b) => pure (.address b)
        pure (some a, some limit, ← solid?)
      | c => pure (some a, none, c)
  let allowsZero := match limit with
    | some (.address (.matched _)) => true
    | _ => false
  if isZero first && !allowsZero then refuse "invalid usage of line address 0"
  if c = some '!' then
    let c ← solid?
    if c = some '!' then refuse "multiple \x60!'s"
    else pure (⟨first, limit, true⟩, c)
  else pure (⟨first, limit, false⟩, c)

/-! ### Texts -/

/-- Takes the lines of a text. Answers whether the text goes on in the next piece. -/
def textLines : Nat → Text → Reader (Text × Bool)
  | 0, done => pure (done.reverse, false)
  | fuel + 1, done => do
    match ← char? with
    | none | some '\n' => pure (('\n' :: done).reverse, false)
    | some '\\' =>
      match ← char? with
      | none => pure (('\n' :: done).reverse, true)
      | some c => textLines fuel (c :: '\\' :: done)
    | some c => textLines fuel (c :: done)

/-- Takes the text of a command. -/
def commandText : Reader (Text × Bool) := do
  let lines : Reader (Text × Bool) := do
    let (t, isPending) ← textLines ((← get).rest.length + 1) []
    pure (writtenText (t.length + 1) t, isPending)
  match ← solid? with
  | none => refuse "expected \\ after \x60a', \x60c' or \x60i'"
  | some '\\' =>
    match ← char? with
    | none => pure ([], true)
    | some '\n' => lines
    | c =>
      giveBack c
      lines
  | c =>
    giveBack c
    lines

/-- Takes the name of a file up to the end of the line. -/
def fileName : Reader Text := do
  let _ ← takeWhile isBlank
  let t ← takeWhile (· != '\n')
  let _ ← char?
  if t.isEmpty then refuse "missing filename in r/R/w/W commands" else pure t

/-- Takes the name of a file that is written, and answers its number among the outputs. -/
def outputName : Reader Nat := do
  let t ← fileName
  let r ← get
  match r.outputs.idxOf? t with
  | some n => pure n
  | none =>
    set { r with outputs := r.outputs ++ [t] }
    pure r.outputs.length

/-- Takes a label. -/
def label : Reader Text := do
  let _ ← takeWhile isBlank
  takeWhile fun c => !(Numeral.isSpace c || c == ';' || c == '\x7d')

/-! ### Commands -/

/-- The flags of a substitution. -/
structure Flags where
  isGlobal : Bool
  number : Option Nat
  ignoresCase : Bool
  isMultiline : Bool
  runs : Bool
  printsBefore : Bool
  printsAfter : Bool
  output : Option Nat

/-- Takes the flags of a substitution. -/
def substitutionFlags : Nat → Flags → Reader Flags
  | 0, f => pure f
  | fuel + 1, f => do
    match ← solid? with
    | none | some '\n' | some ';' => pure f
    | some 'i' | some 'I' => substitutionFlags fuel { f with ignoresCase := true }
    | some 'm' | some 'M' => substitutionFlags fuel { f with isMultiline := true }
    | some 'e' => substitutionFlags fuel { f with runs := true }
    | some 'p' =>
      if f.printsBefore || f.printsAfter then refuse "multiple \x60p' options to \x60s' command"
      else if f.runs then substitutionFlags fuel { f with printsAfter := true }
      else substitutionFlags fuel { f with printsBefore := true }
    | some 'g' =>
      if f.isGlobal then refuse "multiple \x60g' options to \x60s' command"
      else substitutionFlags fuel { f with isGlobal := true }
    | some 'w' => do pure { f with output := some (← outputName) }
    | some c =>
      if c.isDigit then
        if f.number.isSome then
          let _ ← takeWhile Char.isDigit
          refuse "multiple number options to \x60s' command"
        else
          giveBack (some c)
          match ← number with
          | 0 => refuse "number option to \x60s' command may not be zero"
          | n => substitutionFlags fuel { f with number := some n }
      else if c = '\x7d' || c = '#' then
        giveBack (some c)
        pure f
      else refuse "unknown option to \x60s'"

/-- Takes a substitution. -/
def substitution : Reader Order := do
  let unterminated := "unterminated \x60s' command"
  match ← char? with
  | none => refuse unterminated
  | some delimiter =>
    let t ← delimited delimiter true unterminated
    let u ← delimited delimiter false unterminated
    let parts := replacement u
    let f ← substitutionFlags ((← get).rest.length + 1)
      ⟨false, none, false, false, false, false, false, none⟩
    let m ← compiled t f.ignoresCase f.isMultiline
    let most := parts.foldl (fun n p => max n (p.group.getD 0)) 0
    match m with
    | some m =>
      if most > m.groups then
        throw ((← get).spot.refusal false ("invalid reference \\".toList ++ Text.ofNat most ++
          " on \x60s' command's RHS".toList))
    | none => pure ()
    pure (.substitute ⟨m, parts, f.isGlobal, f.number.getD 1, f.runs, f.printsBefore,
      f.printsAfter, f.output⟩)

/-- The characters of a translation, or nothing if a backslash is wrong. -/
def translationChars? : Text → Option Text
  | [] => some []
  | '\\' :: '\\' :: rest => (translationChars? rest).map ('\\' :: ·)
  | '\\' :: _ => none
  | c :: rest => (translationChars? rest).map (c :: ·)

/-- Text in which escapes that stand for octets are replaced, but not doubled backslashes. -/
def translationText : Nat → Text → Text
  | 0, t => t
  | _ + 1, [] => []
  | fuel + 1, '\\' :: rest =>
    match rest with
    | '\\' :: rest => '\\' :: '\\' :: translationText fuel rest
    | rest =>
      match escape? rest with
      | some (c, rest) => c :: translationText fuel rest
      | none => '\\' :: translationText fuel rest
  | fuel + 1, c :: rest => c :: translationText fuel rest

/-- Takes a translation. -/
def translation : Reader Order := do
  let unterminated := "unterminated \x60y' command"
  match ← char? with
  | none => refuse unterminated
  | some delimiter =>
    let t ← delimited delimiter false unterminated
    let u ← delimited delimiter false unterminated
    let chars? (t : Text) : Option Text := translationChars? (translationText (t.length + 1) t)
    match chars? t, chars? u with
    | some t, some u =>
      if t.length ≠ u.length then refuse "strings for \x60y' command are different lengths"
      commandEnd
      pure (.translate (t.zip u))
    | _, _ => refuse "strings for \x60y' command are different lengths"

/-- Takes a status or a width behind a command. -/
def commandNumber : Reader (Option Nat) := do
  match ← solid? with
  | some c =>
    giveBack (some c)
    if c.isDigit then do pure (some (← number)) else pure none
  | none => pure none

/-- Adds a command. -/
def add (s : Selection) (order : Order) : Reader Unit :=
  modify fun r => { r with commands := r.commands.push ⟨s, order⟩ }

/-- Adds a command with a text. -/
def addText (s : Selection) (order : Text → Order) : Reader Unit := do
  let (t, isPending) ← commandText
  add s (order t)
  modify fun r => { r with isPending := isPending }

/-- The orders of commands that have nothing behind them. -/
def plainOrder? (c : Char) : Option Order :=
  match c with
  | '=' => some .number
  | 'd' => some .delete
  | 'D' => some .deleteFirst
  | 'F' => some .fileName
  | 'g' => some .getHold
  | 'G' => some .addHold
  | 'h' => some .hold
  | 'H' => some .addToHold
  | 'n' => some .next
  | 'N' => some .addNext
  | 'p' => some .print
  | 'P' => some .printFirst
  | 'x' => some .exchange
  | 'z' => some .clear
  | _ => none

/-- Whether a version is later than the one that this editor is like. -/
def isLaterVersion (t : Text) : Bool :=
  match (Text.splitOn '.' t).map Text.toNat? with
  | some major :: rest =>
    let minor := ((rest.head?.bind id).getD 0)
    major > 4 || (major == 4 && minor > 9)
  | _ => false

/-- Takes a command by its letter. -/
def command (s : Selection) (c : Char) : Reader Unit := do
  match plainOrder? c with
  | some order =>
    commandEnd
    add s order
  | none =>
  match c with
  | '\x7b' =>
    let r ← get
    set { r with blocks := (r.commands.size, r.spot) :: r.blocks }
    add s (.block 0)
  | '\x7d' =>
    let r ← get
    match r.blocks with
    | [] => refuse "unexpected \x60\x7d'"
    | (n, _) :: blocks =>
      if s.first.isSome then refuse "\x60\x7d' doesn't want any addresses"
      commandEnd
      modify fun r =>
        { r with
          blocks := blocks
          commands := r.commands.modify n fun k => { k with order := .block r.commands.size } }
  | 'a' => addText s .append
  | 'i' => addText s .insert
  | 'c' => addText s .change
  | ':' =>
    if s.first.isSome then refuse ": doesn't want any addresses"
    let t ← label
    if t.isEmpty then refuse "\":\" lacks a label"
    modify fun r => { r with labels := r.labels ++ [(t, r.commands.size)] }
  | 'b' => do add s (.branch (← label))
  | 't' => do add s (.branchIf (← label))
  | 'T' => do add s (.branchUnless (← label))
  | 'e' =>
    if (← get).isSandboxed then refuse "e/r/w commands disabled in sandbox mode"
    let _ ← takeWhile isBlank
    let t ← takeWhile (· != '\n')
    let _ ← char?
    add s (.run (if t.isEmpty then none else some t))
  | 'l' => do
    let n ← commandNumber
    commandEnd
    add s (.list n)
  | 'q' | 'Q' => do
    if s.limit.isSome then refuse "command only uses one address"
    let n ← commandNumber
    commandEnd
    add s (.quit (n.getD 0) (c == 'q'))
  | 'r' | 'R' | 'w' | 'W' =>
    if (← get).isSandboxed then refuse "e/r/w commands disabled in sandbox mode"
    match c with
    | 'r' => do add s (.readFile (← fileName))
    | 'R' => do add s (.readLine (← fileName))
    | 'w' => do add s (.write (← outputName))
    | _ => do add s (.writeFirst (← outputName))
  | 's' => do add s (← substitution)
  | 'y' => do add s (← translation)
  | 'v' =>
    let t ← label
    if isLaterVersion t then refuse "expected newer version of sed"
  | c => throw ((← get).spot.refusal false ("unknown command: \x60".toList ++ [c, '\'']))

/-- Takes so many commands of a piece at most. -/
def commands : Nat → Reader Unit
  | 0 => pure ()
  | fuel + 1 => do
    let _ ← takeWhile fun c => c == ';' || Numeral.isSpace c
    match ← char? with
    | none => pure ()
    | some '#' =>
      let _ ← takeWhile (· != '\n')
      commands fuel
    | some c => do
      let (s, c) ← selection (some c)
      match c with
      | none => refuse "missing command"
      | some '#' => refuse "comments don't accept any addresses"
      | some c =>
        command s c
        commands fuel

/-- Adds text to that of the last command. -/
def continueText : Reader Unit := do
  let r ← get
  if r.isPending && !r.rest.isEmpty then
    let (t, isPending) ← textLines (r.rest.length + 1) []
    let u := writtenText (t.length + 1) t
    let more (k : Command) : Command :=
      match k.order with
      | .append t => { k with order := .append (t ++ u) }
      | .insert t => { k with order := .insert (t ++ u) }
      | .change t => { k with order := .change (t ++ u) }
      | _ => k
    modify fun r =>
      { r with commands := r.commands.modify (r.commands.size - 1) more, isPending := isPending }

/-- Reads a piece of a script. -/
def piece (origin : Origin) (t : Text) : Reader Unit := do
  modify fun r => { r with spot := ⟨origin, 0, 1⟩, rest := t }
  continueText
  commands (t.length + 1)

/-- The label of a branch. -/
def Order.label? (o : Order) : Option Text :=
  match o with
  | .branch t | .branchIf t | .branchUnless t => if t.isEmpty then none else some t
  | _ => none

/-- Reads the pieces of a script. -/
def readScript (isExtended isSandboxed : Bool) (pieces : List (Origin × Text)) :
    Except Refusal Script := do
  let isQuiet := match pieces with
    | (_, '#' :: 'n' :: _) :: _ => true
    | _ => false
  let start : Reading :=
    ⟨⟨.argument 1, 0, 1⟩, [], #[], [], [], [], isQuiet, isExtended, isSandboxed, false⟩
  let ((), r) ← (pieces.forM fun (origin, t) => piece origin t : Reader Unit).run start
  match r.blocks with
  | (_, spot) :: _ => throw (spot.refusal true "unmatched \x60\x7b'".toList)
  | [] => pure ()
  let missing := r.commands.toList.findSome? fun k =>
    k.order.label?.filter fun t => (r.labels.lookup t).isNone
  match missing with
  | some t => throw ⟨"can't find label for jump to \x60".toList ++ t ++ ['\''], 4⟩
  | none => pure ⟨r.commands, r.labels, r.outputs, r.isQuiet⟩

end Console.Host.Tool.Sed
