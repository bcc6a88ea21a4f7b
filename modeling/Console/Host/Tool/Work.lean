import Console.Host.Access
import Console.Host.Tool.Options

/-! The work of a tool: its output is gathered and written in pieces, what goes wrong is reported
    under its name, and its input is read piece by piece or line by line. -/

namespace Console.Host.Tool

/-! ### Names in messages: in quotes where that is needed, or always -/

/-- Whether a character is shown as it is. -/
def isPrintable (c : Char) : Bool := ' ' ≤ c && c ≤ '~'

/-- The three octal digits of an octet. -/
def octal3 (n : Nat) : Text :=
  [Nat.digitChar (n / 64 % 8), Nat.digitChar (n / 8 % 8), Nat.digitChar (n % 8)]

/-- A character that is not shown as it is, behind a backslash. -/
def escaped (c : Char) : Text :=
  match c with
  | '\x07' => ['\\', 'a']
  | '\x08' => ['\\', 'b']
  | '\x0c' => ['\\', 'f']
  | '\n' => ['\\', 'n']
  | '\r' => ['\\', 'r']
  | '\t' => ['\\', 't']
  | '\x0b' => ['\\', 'v']
  | c => '\\' :: octal3 c.toNat

/-- Whether a character of a name needs no quotes for itself. -/
def isPlain (c : Char) : Bool := c.isAlphanum || "%+,-./]_:@\x7b\x7d#~".toList.contains c

/-- Whether double quotes leave a character as it is. -/
def isQuiet (c : Char) : Bool := c.isAlphanum || " '%+,-./:]_@".toList.contains c

/-- Whether a name is written without quotes. -/
def isBare (t : Text) : Bool :=
  match t with
  | [] | ['\x7b'] | ['\x7d'] => false
  | c :: _ => c != '#' && c != '~' && t.all isPlain

/-- The inside of single quotes. What cannot be shown stands in quotes of its own with escapes. -/
def inSingleQuotes : Bool → Text → Text
  | _, [] => []
  | inEscape, c :: rest =>
    let close : Text := if inEscape then ['\'', '\''] else []
    if c = '\'' then
      (if inEscape then "''\\''".toList else "'\\''".toList) ++ inSingleQuotes false rest
    else if isPrintable c then close ++ c :: inSingleQuotes false rest
    else
      (if inEscape then [] else "'$'".toList) ++ escaped c ++ inSingleQuotes true rest

/-- A name in quotes. -/
def quotedName (t : Text) : Text :=
  if '\'' ∈ t && t.all isQuiet then '"' :: t ++ ['"']
  else '\'' :: inSingleQuotes false t ++ ['\'']

/-- A name, in quotes only if it needs them. With `colons` a colon needs them. -/
def shownName (colons : Bool) (t : Text) : Text :=
  if isBare t && !(colons && ':' ∈ t) then t else quotedName t

/-- A text in simple quotes. -/
def quoted (t : Text) : Text :=
  '\'' :: (t.flatMap fun c =>
    if c = '\'' || c = '\\' then ['\\', c] else if isPrintable c then [c] else escaped c) ++ ['\'']

/-! ### The work of a tool -/

/-- How a tool speaks of failures. -/
structure Manner where
  /-- The status if it cannot go on. -/
  failure : Nat
  /-- What is said when its output cannot be written, up to the reason. -/
  writing : String

/-- What a tool has at hand. -/
structure Desk where
  call : Call
  start : Start
  manner : Manner
  /-- The output that is not yet written, the last piece first. -/
  pending : List Text
  size : Nat
  status : Nat

/-- What a tool does. -/
abbrev Work := StateT Desk Prog

/-- Does steps of the process. -/
def step {α : Type} (p : Prog α) : Work α := fun desk next => p fun a => next (a, desk)

namespace Work

/-! ### Reports -/

/-- The name under which the tool was started. -/
def name : Work Text := do pure (← get).call.name

/-- Writes what goes wrong, under the name of the tool. -/
def mutter (t : Text) : Work Unit := do
  step (Prog.put 2 ((← name) ++ ": ".toList ++ t ++ ['\n']))

/-- Writes the output that is waiting. The tool ends if that fails. -/
def flush : Work Unit := do
  let desk ← get
  if !desk.pending.isEmpty then
    set { desk with pending := [], size := 0 }
    match ← step (Prog.write 1 desk.pending.reverse.flatten) with
    | .ok () => pure ()
    | .error e =>
      mutter (desk.manner.writing.toList ++ ": ".toList ++ e.wording)
      step (Prog.exit desk.manner.failure)

/-- How much output waits until it is written. -/
def bufferSize : Nat := 4096

/-- Adds output. -/
def say (t : Text) : Work Unit := do
  modify fun desk => { desk with pending := t :: desk.pending, size := desk.size + t.length }
  if (← get).size ≥ bufferSize then flush

/-- Adds a line of output. -/
def sayLine (t : Text) : Work Unit := say (t ++ ['\n'])

/-- Lets the status be a number at least. -/
def atLeast (status : Nat) : Work Unit :=
  modify fun desk => { desk with status := max desk.status status }

/-- Reports something after the output that comes before it, and goes on. -/
def complain (status : Nat) (t : Text) : Work Unit := do
  flush
  mutter t
  atLeast status

/-- Ends the tool. -/
def stop {α : Type} (status : Nat) : Work α := do
  flush
  step (Prog.exit status)

/-- Reports something and ends the tool. -/
def giveUp {α : Type} (t : Text) : Work α := do
  flush
  mutter t
  step (Prog.exit (← get).manner.failure)

/-- The line that tells where help is. -/
def helpHint (name : Text) : Text :=
  "Try '".toList ++ name ++ " --help' for more information.\n".toList

/-- Reports a wrong use of the tool and ends it. -/
def misuse {α : Type} (t : Text) : Work α := do
  flush
  mutter t
  step (Prog.put 2 (helpHint (← name)))
  step (Prog.exit (← get).manner.failure)

/-- Refuses a word for an option and lists those that it can have. Words of one meaning stand
    together. -/
def refuseWord {α : Type} (status : Nat) (kind what : Text) (meanings : List (List String))
    (t : Text) : Work α := do
  let inQuotes (w : String) : Text := '\'' :: w.toList ++ ['\'']
  flush
  mutter (kind ++ " argument ".toList ++ quoted t ++ " for ".toList ++ what ++
    "\nValid arguments are:".toList ++ meanings.flatMap fun words =>
      "\n  - ".toList ++ Text.join [',', ' '] (words.map inQuotes))
  step (Prog.put 2 (helpHint (← name)))
  step (Prog.exit status)

/-- The meaning of a word for an option, which can be shortened. Another word ends the tool with a
    status. -/
def pick {α : Type} (status : Nat) (what : Text) (meanings : List (List String × α)) (t : Text) :
    Work α := do
  let exact := meanings.find? fun (words, _) => words.any fun w => w.toList == t
  let begun := meanings.filter fun (words, _) => words.any fun w => t.isPrefixOf w.toList
  match exact, begun with
  | some (_, a), _ | none, [(_, a)] => pure a
  | none, _ =>
    let kind := if begun.isEmpty then "invalid" else "ambiguous"
    refuseWord status kind.toList what (meanings.map Prod.fst) t

/-! ### Files -/

/-- Opens a file to be read; a hyphen is the input of the tool. -/
def openInput (file : Text) : Work (Except Files.Fault Nat) :=
  if file = ['-'] then pure (.ok 0) else step (Prog.open_ 3 file .reading 0)

/-- Closes a file that was opened to be read. -/
def closeInput (descriptor : Nat) : Work Unit :=
  if descriptor = 0 then pure () else step (Prog.close descriptor)

/-- A file as messages name it. -/
def shown (t : Text) : Text := shownName true t

/-- A file as some messages name it, in quotes in any case. -/
def inQuotes (t : Text) : Text := quotedName t

/-- What goes wrong with a file, behind its name. -/
def faultOf (file : Text) (wording : Text) : Text := shown file ++ ": ".toList ++ wording

/-- All octets of an opened file. -/
def readAll (descriptor : Nat) : Work (Except Obstacle Text) := step (Prog.readAll descriptor)

/-- All octets of a file. -/
def contents (file : Text) : Work (Except Text Text) := do
  match ← openInput file with
  | .error e => pure (.error e.wording)
  | .ok d =>
    let t ← readAll d
    closeInput d
    pure (t.mapError Obstacle.wording)

/-- Uses files one after the other. What goes wrong with one is reported. -/
def foldFiles {σ : Type} (use : Nat → σ → Work (Except Obstacle σ)) : σ → List Text → Work σ
  | st, [] => pure st
  | st, file :: rest => do
    match ← openInput file with
    | .error e =>
      complain 1 (faultOf file e.wording)
      foldFiles use st rest
    | .ok d =>
      let r ← use d st
      closeInput d
      match r with
      | .ok st => foldFiles use st rest
      | .error e =>
        complain 1 (faultOf file e.wording)
        foldFiles use st rest

/-- The files that operands name; without any, the input of the tool. -/
def filesOf (g : Given) : List Text := if g.operands.isEmpty then [['-']] else g.operands

/-! ### Streams -/

/-- What a tool makes of the pieces of its input: it keeps a state and writes. -/
structure Stream (σ : Type) where
  /-- Takes a piece; what is left of it is no longer wanted. -/
  take : σ → Text → σ × Text × Text
  /-- Whether no more is wanted. -/
  isOver : σ → Bool

/-- Reads so many pieces at most. -/
def feedMany {σ : Type} (s : Stream σ) (descriptor : Nat) : Nat → σ → Work (Except Obstacle σ)
  | 0, st => pure (.ok st)
  | fuel + 1, st => do
    if s.isOver st then pure (.ok st)
    else
      match ← step (Prog.readPiece descriptor) with
      | .error e => pure (.error e)
      | .ok [] => pure (.ok st)
      | .ok piece =>
        let (st, written, left) := s.take st piece
        if !left.isEmpty then
          step (Prog.act fun w =>
            ((), if w.canUnread descriptor then w.unread descriptor left.length else w))
        if !written.isEmpty then say written
        feedMany s descriptor fuel st

/-- Reads a descriptor as far as it is wanted. -/
def feed {σ : Type} (s : Stream σ) (descriptor : Nat) (st : σ) : Work (Except Obstacle σ) :=
  feedMany s descriptor Prog.manyPieces st

/-- What a tool makes of lines: of each, without the newline and with whether it has one. -/
structure Lines (σ : Type) where
  /-- The character that ends lines. -/
  ending : Char
  line : σ → Text → Bool → σ × Text
  isOver : σ → Bool

/-- Takes the lines of a text that have ended, so many at most, and adds what is written to a list.
    The text starts with what is left from before. -/
def takeLines {σ : Type} (l : Lines σ) : Nat → σ → List Text → Text → σ × List Text × Text
  | 0, st, written, t => (st, written, t)
  | fuel + 1, st, written, t =>
    if l.isOver st then (st, written, t)
    else
      let line := t.takeWhile (· != l.ending)
      match t.drop line.length with
      | [] => (st, written, t)
      | _ :: rest =>
        let (st, u) := l.line st line true
        takeLines l fuel st (u :: written) rest

/-- Lines as a stream. The state keeps what is left of the last piece. -/
def Lines.stream {σ : Type} (l : Lines σ) : Stream (σ × List Text) where
  take := fun (st, kept) piece =>
    if piece.elem l.ending then
      let t := (piece :: kept).reverse.flatten
      let (st, written, rest) := takeLines l (t.length + 1) st [] t
      let written := written.reverse.flatten
      if l.isOver st then ((st, []), written, rest) else ((st, [rest]), written, [])
    else ((st, piece :: kept), [], [])
  isOver := fun (st, _) => l.isOver st

/-- Reads the lines of a descriptor. -/
def feedLines {σ : Type} (l : Lines σ) (descriptor : Nat) (st : σ) : Work (Except Obstacle σ) := do
  match ← feed l.stream descriptor (st, []) with
  | .error e => pure (.error e)
  | .ok (st, kept) =>
    match kept.reverse.flatten with
    | [] => pure (.ok st)
    | t =>
      if l.isOver st then pure (.ok st)
      else
        let (st, written) := l.line st t false
        say written
        pure (.ok st)

end Work

/-- The lines of a text without their newlines. -/
def linesOf (t : Text) : List Text :=
  match (Text.splitOn '\n' t).reverse with
  | [] :: rest => rest.reverse
  | l => l.reverse

/-! ### Tools -/

/-- A tool that reads its arguments itself. -/
def tool (manner : Manner) (work : List Text → Work Unit) : Program := fun start call next =>
  let whole : Work Unit := do
    work call.arguments
    Work.flush
  whole ⟨call, start, manner, [], 0, 0⟩ fun (_, desk) => next desk.status

/-- How most tools speak of failures. -/
def usualManner : Manner := ⟨1, "write error"⟩

/-- How a tool with another status speaks of failures. -/
def mannerOf (failure : Nat) : Manner := ⟨failure, "write error"⟩

/-- A tool whose options follow a grammar. -/
def toolOf (manner : Manner) (switches : List Switch) (work : Given → Work Unit) : Program :=
  tool manner fun arguments => do
    match (Grammar.usual switches).read arguments with
    | .error e => Work.misuse e
    | .ok given => work given

/-- A tool whose options stand before all operands. -/
def strictToolOf (manner : Manner) (switches : List Switch) (work : Given → Work Unit) : Program :=
  tool manner fun arguments => do
    match (Grammar.strict switches).read arguments with
    | .error e => Work.misuse e
    | .ok given => work given

end Console.Host.Tool
