import Console.Files
import Console.Host.Numeral
import Console.Host.Pattern

/-! Fields: what words come to. The values that stand outside quotes are split at the separators,
    and a field with an open pattern gives way to the paths of the files that match it. A line that
    is read is split in the same way, but only into as many fields as there are names for. -/

namespace Console.Host

/-- A piece of an expanded word. -/
inductive Atom where
  /-- A character of the word itself. -/
  | char (c : Char) (isQuoted : Bool)
  /-- A value outside quotes begins here. -/
  | edge
  /-- A character of a value outside quotes. -/
  | value (c : Char)
  /-- There are quotes, so there is a field. -/
  | presence
  /-- A positional parameter ends here and another one begins. -/
  | boundary (inQuotes : Bool)
  deriving DecidableEq, Repr

/-- A field, with what is quoted in it. -/
abbrev Field := List (Char × Bool)

namespace Atom

/-- The pieces of a value. -/
def ofValue (inQuotes : Bool) (t : Text) : List Atom :=
  if inQuotes then .presence :: t.map fun c => .char c true else .edge :: t.map .value

/-- The characters of pieces without any splitting, with a text between parameters. -/
def text (between : Text) (l : List Atom) : Text :=
  l.flatMap fun
    | .char c _ | .value c => [c]
    | .boundary _ => between
    | .edge | .presence => []

/-- The characters of pieces as those of a pattern. -/
def chars (between : Text) (l : List Atom) : Field :=
  l.flatMap fun
    | .char c isQuoted => [(c, isQuoted)]
    | .value c => [(c, false)]
    | .boundary _ => between.map fun c => (c, true)
    | .edge | .presence => []

/-- Makes the pieces of an operand outside quotes subject to splitting. -/
def loosen (l : List Atom) : List Atom :=
  .edge :: l.map fun
    | .char c false => .value c
    | a => a

end Atom

/-! ### Splitting -/

/-- The fields so far, the last one first, and the one that has begun, from its end. -/
structure Splitting where
  done : List Field
  current : Option Field
  /-- Whether blanks have just ended a field, so that a separator behind them ends no other. -/
  afterBlanks : Bool

namespace Splitting

/-- Ends the field that has begun. -/
def flush (s : Splitting) : Splitting :=
  match s.current with
  | none => s
  | some f => ⟨f.reverse :: s.done, none, false⟩

/-- Adds a character to the field. -/
def add (s : Splitting) (c : Char) (isQuoted : Bool) : Splitting :=
  { s with current := some ((c, isQuoted) :: s.current.getD []), afterBlanks := false }

/-- Takes a separator, which can be a blank. -/
def separate (s : Splitting) (isSpace : Bool) : Splitting :=
  match isSpace, s.current with
  | true, some _ => { s.flush with afterBlanks := true }
  | true, none => s
  | false, some _ => s.flush
  | false, none => if s.afterBlanks then { s with afterBlanks := false } else
      { s with done := [] :: s.done }

/-- Takes one piece. -/
def step (separators : Text) (s : Splitting) : Atom → Splitting
  | .char c isQuoted => s.add c isQuoted
  | .presence => { s with current := some (s.current.getD []), afterBlanks := false }
  | .edge => { s with afterBlanks := false }
  | .boundary true => s.flush
  | .boundary false => s.separate true
  | .value c =>
    if !separators.elem c then s.add c false else s.separate (c == ' ' || c == '\t' || c == '\n')

end Splitting

/-- The fields of pieces. -/
def fieldsOf (separators : Text) (l : List Atom) : List Field :=
  (l.foldl (Splitting.step separators) ⟨[], none, false⟩).flush.done.reverse

/-! ### Lines that are read -/

/-- The fields of a line so far, the last one first, and the one that has begun, from its end. -/
structure Dealing where
  done : List Text
  current : Text
  /-- How much of the last field counts if nothing but separators follows. -/
  kept : Option Nat
  afterBlanks : Bool
  /-- How many fields the line can still have. -/
  left : Nat

namespace Dealing

/-- Adds a character to the field. -/
def add (d : Dealing) (c : Char) : Dealing := { d with current := c :: d.current }

/-- Takes a character that can be a separator. -/
def take (separators : Text) (d : Dealing) (c : Char) : Dealing :=
  let separates := separators.elem c
  let isSpace := separates && (c == ' ' || c == '\t' || c == '\n')
  if d.left = 0 then
    if isSpace then { d.add c with kept := d.kept.or (some d.current.length) }
    else
      let kept := if separates && d.afterBlanks then d.kept else none
      { d.add c with kept := kept, afterBlanks := false }
  else if d.afterBlanks then
    if isSpace then d
    else { d with current := if separates then [] else [c], afterBlanks := false }
  else if !separates then d.add c
  else if isSpace && d.current.isEmpty then d
  else if d.left = 1 then
    { d.add c with kept := some d.current.length, afterBlanks := isSpace, left := 0 }
  else
    ⟨d.current.reverse :: d.done, [], none, isSpace, d.left - 1⟩

/-- Takes one piece of a line. -/
def step (separators : Text) (d : Dealing) : Atom → Dealing
  | .char c _ => d.add c
  | .value c => d.take separators c
  | .edge => { d with afterBlanks := false }
  | .presence | .boundary _ => d

end Dealing

/-- Deals a line out to so many names. -/
def dealt (separators : Text) (count : Nat) (l : List Atom) : List Text :=
  let d := l.foldl (Dealing.step separators) ⟨[], [], none, false, count⟩
  let last := d.current.reverse.take (d.kept.getD d.current.length)
  (if last.isEmpty then d.done else last :: d.done).reverse

/-! ### Files -/

/-- Splits a field at its slashes. -/
def components : Field → List Field
  | [] => [[]]
  | (c, isQuoted) :: rest =>
    match components rest with
    | [] => [[(c, isQuoted)]]
    | part :: parts => if c = '/' then [] :: part :: parts else ((c, isQuoted) :: part) :: parts

/-- Whether a component stands for more than one name: its brackets are closed. -/
def isPattern (part : Field) : Bool :=
  (Pattern.ofChars (part.length + 1) part).any fun
    | .char _ => false
    | _ => true

/-- The names in a directory that match a component. A point at the beginning is matched only by
    itself. -/
def matchingNames (files : Files) (base : Nat) (lead : Text) (part : Field) : List Text :=
  let directory := if lead.isEmpty then some base else files.find? base lead
  match directory.bind files.directory? with
  | none => []
  | some (_, entries) =>
    let pattern := Pattern.ofChars (part.length + 1) part
    let showsHidden := (part.head?.map Prod.fst) == some '.'
    (['.'] :: ['.', '.'] :: entries.map Prod.fst).filter fun name =>
      (showsHidden || name.head? != some '.') && pattern.matchesAll name

/-- The paths that components match behind a text. -/
def matchingPaths (files : Files) (base : Nat) : List Field → Text → List Text
  | [], _ => []
  | part :: rest, lead =>
    let ends := rest.isEmpty
    if isPattern part then
      (matchingNames files base lead part).flatMap fun name =>
        if ends then [lead ++ name] else matchingPaths files base rest (lead ++ name ++ ['/'])
    else
      let path := lead ++ part.map Prod.fst
      if !ends then matchingPaths files base rest (path ++ ['/'])
      else if (files.locate base path false).toOption.isSome then [path]
      else []

/-- The texts of a field: the files that match its pattern, in the order of paths, or itself. -/
def Field.texts (files : Files) (base : Nat) (f : Field) : List Text :=
  let itself := [f.map Prod.fst]
  if !Pattern.isOpen f then itself
  else
    let parts := components f
    if !parts.any isPattern then itself
    else
      let found := matchingPaths files base parts []
      if found.isEmpty then itself else found.mergeSort Text.precedes

end Console.Host
